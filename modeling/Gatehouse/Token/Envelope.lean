import Gatehouse.Instant
import Gatehouse.Token.Claims

/-!
Signed envelopes. An envelope binds a key to claims, and checks on the time may be appended to it by
anybody; nothing else that is appended counts. Signing is taken as ideal: an envelope opens with the key it
was sealed with and with no other, and a text that was not made by signing does not open at all.
-/
namespace Gatehouse.Token

/-- What an envelope says: claims, or a text that is none. -/
inductive Content where
  | claims (c : Claims)
  | malformed
  deriving DecidableEq, Repr, Inhabited

def Content.ofText (text : String) : Content :=
  match Claims.parse text with
  | some c => .claims c
  | none => .malformed

structure Envelope where
  /-- The id of the key that signed it. -/
  signedBy : String
  content : Option Content
  /-- The last whole seconds at which appended checks let it open. -/
  openUntil : List Int := []
  deriving DecidableEq, Repr, Inhabited

/-- What a bearer shows: an envelope, or any other text. -/
inductive Bearer where
  | envelope (e : Envelope)
  | text (s : String)
  deriving DecidableEq, Repr, Inhabited

/-- Why a bearer value does not prove its claims. -/
inductive SignatureFault where
  /-- No envelope of the key, or closed by a check. -/
  | closed
  | missingClaims
  | malformedClaims
  | keyMismatch
  | unsigned
  | altered
  | noKey
  deriving DecidableEq, Repr, Inhabited

namespace Envelope

def sign (c : Claims) : Envelope := ⟨c.keyId, some (.claims c), []⟩

/-- Appends a check. -/
def closeAfter (e : Envelope) (second : Int) : Envelope := { e with openUntil := e.openUntil ++ [second] }

/-- Opens an envelope with a key and returns the claims. -/
def openWith (e : Envelope) (keyId : String) (now : Instant) : Except SignatureFault Claims :=
  if e.signedBy ≠ keyId ∨ ¬ e.openUntil.all (now.seconds ≤ ·) then .error .closed
  else
    match e.content with
    | none => .error .missingClaims
    | some .malformed => .error .malformedClaims
    | some (.claims c) => if c.keyId = keyId then .ok c else .error .keyMismatch

/-- What was signed with a key opens with that key. -/
theorem openWith_sign (c : Claims) (now : Instant) : (sign c).openWith c.keyId now = .ok c := by
  simp [sign, openWith]

/-- Only the key of an envelope opens it, and to its claims. -/
theorem signedBy_of_openWith {e : Envelope} {keyId : String} {now : Instant} {c : Claims}
    (h : e.openWith keyId now = .ok c) : e.signedBy = keyId ∧ e.content = some (.claims c) := by
  unfold openWith at h
  split at h
  · cases h
  · next hk =>
    split at h
    · cases h
    · cases h
    · next d hd =>
      split at h
      · cases h
        exact ⟨by simpa using fun hne => hk (Or.inl hne), hd⟩
      · cases h

end Envelope

/-- Opens a bearer value with a key. -/
def Bearer.openWith (b : Bearer) (keyId : String) (now : Instant) : Except SignatureFault Claims :=
  match b with
  | envelope e => e.openWith keyId now
  | text _ => .error .closed

end Gatehouse.Token
