/-
This file holds captchas that have been issued and not yet answered. An identifier is good for one
answer, by the user and for the kind of action that it was issued for, and before its life ends. The
first half of an identifier is a salted hash; the second half is a running number and alone makes
identifiers differ.
-/
import Gatekeeper.ActionKind
import Gatekeeper.Failure
import Gatekeeper.Store.Keyed
import Gatekeeper.Text.Blank
import Gatekeeper.Text.Hex
import Gatekeeper.Time

namespace Gatekeeper

/-- What a user hands in: an identifier and an answer. -/
structure CaptchaToken where
  id : String
  answer : String
  deriving DecidableEq

/-- What an identifier was issued for. -/
structure IssuedCaptcha where
  user : String
  kind : ActionKind
  answer : String
  expiresAt : Instant
  deriving DecidableEq

/-- Whether two texts differ in the case of Latin letters at most. -/
def sameButCase (first second : List Char) : Bool :=
  first.map Char.toLower = second.map Char.toLower

namespace IssuedCaptcha

/-- Whether the life of a captcha has ended. At its very end it has. -/
def isExpired (captcha : IssuedCaptcha) (now : Instant) : Bool :=
  captcha.expiresAt ≤ now

/-- Whether this is the right answer, by the right user and in time. Blanks around the answer that
is handed in do not count. -/
def accepts (captcha : IssuedCaptcha) (user : String) (kind : ActionKind) (now : Instant)
    (answer : String) : Bool :=
  captcha.user = user && captcha.kind = kind && !captcha.isExpired now &&
    sameButCase captcha.answer.toList (Blank.strip answer.toList)

end IssuedCaptcha

/-- The captchas that have been issued and not yet answered. -/
structure CaptchaDesk where
  /-- How long a captcha can be answered. -/
  life : Duration
  /-- The hash that identifiers start with, by running number. -/
  salt : UInt64 → UInt64
  /-- The next running number. -/
  sequence : UInt64
  issued : KeyedStore String IssuedCaptcha

namespace CaptchaDesk

def ofLife (life : Duration) (salt : UInt64 → UInt64) : CaptchaDesk :=
  ⟨life, salt, 0, .empty⟩

/-- A salt to start with when there is nothing better: numbers in a row get salts far apart. -/
def scramble (sequence : UInt64) : UInt64 :=
  let mixed := (sequence + 0x9e3779b97f4a7c15) * 0xbf58476d1ce4e5b9
  mixed ^^^ (mixed >>> 29)

/-- The identifier of a running number. -/
def identifier (salt : UInt64 → UInt64) (sequence : UInt64) : String :=
  String.ofList (Hex.padded 16 (salt sequence).toNat ++ Hex.padded 8 sequence.toNat)

/-- Issues a captcha. The running number is used up even where the end of its life cannot be
represented and nothing is issued. -/
def issue (desk : CaptchaDesk) (now : Instant) (user : String) (kind : ActionKind)
    (answer : String) : Except Fault String × CaptchaDesk :=
  let id := identifier desk.salt desk.sequence
  let desk := { desk with sequence := desk.sequence + 1 }
  match now.after? desk.life with
  | some expiresAt =>
    (.ok id, { desk with issued := desk.issued.insert id ⟨user, kind, answer, expiresAt⟩ })
  | none => (.error .expiryOverflow, desk)

/-- Checks an answer. Whatever comes of it, the identifier is used up. -/
def verify (desk : CaptchaDesk) (now : Instant) (user : String) (kind : ActionKind)
    (token : CaptchaToken) : Bool × CaptchaDesk :=
  let (captcha, issued) := desk.issued.take token.id
  (captcha.any fun captcha => captcha.accepts user kind now token.answer,
    { desk with issued := issued })

/-- Drops the captchas whose life has ended, and counts them. -/
def purge (desk : CaptchaDesk) (now : Instant) : Nat × CaptchaDesk :=
  let (count, issued) := desk.issued.purge fun captcha => captcha.isExpired now
  (count, { desk with issued := issued })

end CaptchaDesk

end Gatekeeper
