import Gatehouse.Proofs.Authority.Validation
import Gatehouse.Proofs.KeyRing.Soundness

/-!
The id of a key that a token names says only which key to try first. All keys of the ring are tried, so it does not
matter to the outcome; at most another fault of the signature is reported.
-/
namespace Gatehouse.Authority
open Token (Error SignatureFault)

/-- The same outcome, or two faults of the signature. -/
def SameVerdict (x y : Except Error Token) : Prop :=
  x = y ∨ ∃ f g : SignatureFault, x = .error (.signature f) ∧ y = .error (.signature g)

section
variable (a : Authority) (now : Instant) (t : Token) (r : Requirement)

theorem validate_eq :
    Signed a.keys now t ∧ a.validate now t r = a.checkClaims t r now ∨
      ¬ Signed a.keys now t ∧ a.validate now t r = .error (.signature (firstFault a.keys now t)) := by
  unfold validate
  by_cases signed : Signed a.keys now t
  · rw [checkSignature_eq_ok.mpr signed]
    exact .inl ⟨signed, rfl⟩
  · rw [checkSignature_error signed]
    exact .inr ⟨signed, rfl⟩

theorem validate_hinted (hint : Option String) :
    SameVerdict (a.validate now { t with keyId := hint } r) (a.validate now t r) := by
  rcases a.validate_eq now t r with ⟨signed, outcome⟩ | ⟨unsigned, outcome⟩ <;>
    rcases a.validate_eq now { t with keyId := hint } r with ⟨signed', outcome'⟩ | ⟨unsigned', outcome'⟩
  · exact .inl (outcome'.trans outcome.symm)
  · exact absurd signed unsigned'
  · exact absurd signed' unsigned
  · exact .inr ⟨_, _, outcome', outcome⟩

end

/-- On a ring that has no id twice, all keys are tried once each: the one that is named, if it is there, then the
active one, then the others from the newest to the oldest. Whichever a token names, one that the ring does not have
or none at all, the token is valid just as before and gives the same record, or it is refused with the same
error, up to the fault of its signature. -/
theorem key_hint_decides_nothing {a : Authority} (distinct : a.keys.Distinct) :
    (∀ preferred, ∃ ks : List RetainedKey, ks.Perm a.keys.keys ∧
      a.keys.verifiers preferred = ks.map (·.id) ∧ a.keys.Tried preferred ks) ∧
    ∀ now (t : Token) r hint, SameVerdict (a.validate now { t with keyId := hint } r) (a.validate now t r) :=
  ⟨KeyRing.verifiers_tried distinct, fun now t r hint => a.validate_hinted now t r hint⟩

namespace Rotated
open Sample

def twoKeys : KeyRing := ⟨[replaced, ⟨⟨"l", "", ""⟩, ⟨0, 0⟩, none⟩], some "l", .zero⟩

/-- Two keys, and a token that the older one signed. -/
theorem valid_with_any_hint :
    let a := (start {}).perform (commands none)
    let t := token 86400
    let now : Instant := ⟨60, 0⟩
    let forged := { t with subject := "mallory" }
    a.keys.Distinct ∧ a.keys.verifiers (some "k") = ["k", "l"] ∧ a.keys.verifiers (some "m") = ["l", "k"] ∧
    (∀ hint, a.validate now { t with keyId := hint } {} = .ok t) ∧
    ∀ hint, ∃ f, a.validate now { forged with keyId := hint } {} = .error (.signature f) := by
  intro a t now forged
  have distinct : a.keys.Distinct := by
    unfold KeyRing.Distinct
    decide +kernel
  have general := (key_hint_decides_nothing distinct).2
  have ring : ⟨a.keys.keys, a.keys.active, .zero⟩ = twoKeys := by decide +kernel
  have tried (preferred : Option String) : a.keys.verifiers preferred = twoKeys.verifiers preferred := by
    rw [← ring]
    rfl
  have signed : Signed a.keys now t :=
    checkSignature_eq_ok.mp (checkSignature_ok.mpr (by decide +kernel))
  have unsigned : ¬ Signed a.keys now forged := fun signed =>
    absurd (checkSignature_ok.mp (checkSignature_eq_ok.mpr signed)) (by decide +kernel)
  refine ⟨distinct, (tried _).trans (by cbv), (tried _).trans (by cbv), fun hint => ?_, fun hint => ?_⟩
  · have claims : a.checkClaims t {} now = .ok t := ok_of_toOption (by decide +kernel)
    rcases a.validate_eq now t {} with ⟨-, outcome⟩ | ⟨unsigned, -⟩
    · rcases general now t {} hint with same | ⟨f, g, -, refused⟩
      · exact same.trans (outcome.trans claims)
      · cases refused.symm.trans (outcome.trans claims)
    · exact absurd signed unsigned
  · rcases a.validate_eq now forged {} with ⟨signed, -⟩ | ⟨-, outcome⟩
    · exact absurd signed unsigned
    · rcases general now forged {} hint with same | ⟨f, g, refused, -⟩
      · exact ⟨_, same.trans outcome⟩
      · exact ⟨f, refused⟩

end Rotated

end Gatehouse.Authority
