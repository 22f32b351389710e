import GeneticRepair.Config.Property
import GeneticRepair.Proofs.Outcome

/-!
# What comes of reading a property

A reader ends in the value that it asks for or in a failure. That a value has the wrong kind is
always reported as a misconfiguration; for any other failure the value to blame is named.
-/

namespace GeneticRepair

@[simp] theorem Value.quantity?_ofQuantity (q : Quantity) :
    (Value.ofQuantity q).quantity? = some q := by
  rcases q with (n | x) | b <;> rfl

@[simp] theorem Value.holdsLongInteger_text (s : String) :
    (Value.text s).holdsLongInteger = false := by
  simp [holdsLongInteger]

namespace Config

variable {α : Type} {value : α → Prop} {failure : ConfigError → Prop}

def given? (v : Value) (sectionName name : String) : Option Value :=
  (v.get? sectionName).bind (·.get? name)

theorem given_of_property {v default : Value} {name : String} {P : Value → Prop}
    (h : P (property v name default)) (hdefault : ¬ P default) :
    ∃ w, v.get? name = some w ∧ P w := by
  rw [property] at h
  cases hget : v.get? name with
  | none =>
    rw [hget] at h
    exact absurd h hdefault
  | some w =>
    rw [hget] at h
    exact ⟨w, rfl, h⟩

/-! ## Readers -/

variable (reported : ∀ m, failure (.misconfigured m))

include reported

theorem meets_refuse {m : Misconfiguration} : Meets value failure (refuse m) :=
  reported m

theorem meets_require {holds : Bool} {m : Misconfiguration} :
    Meets (fun _ => holds = true) failure (require holds m) := by
  cases holds with
  | true => exact rfl
  | false => exact meets_refuse reported

theorem meets_text {place : Place} {v : Value} :
    Meets (fun s => v = .text s) failure (text place v) := by
  cases v with
  | text s => exact rfl
  | _ => exact meets_refuse reported

theorem meets_truth {place : Place} {v : Value} :
    Meets (fun b => v = .bool b) failure (truth place v) := by
  cases v with
  | bool b => exact rfl
  | _ => exact meets_refuse reported

theorem meets_integer {place : Place} {v : Value} :
    Meets (fun n => v = .int n) failure (integer place v) := by
  cases v with
  | int n => exact rfl
  | _ => exact meets_refuse reported

theorem meets_count {place : Place} {v : Value} :
    Meets (fun q => v.quantity? = some q) failure (count place v) := by
  cases v with
  | int n => exact rfl
  | bool b => exact rfl
  | _ => exact meets_refuse reported

theorem meets_float {place : Place} {v : Value}
    (hrange : ∀ n, v = .int n → Number.floatOfInt n = .error .overflow → failure .outOfRange) :
    Meets (fun _ => True) failure (float place v) := by
  cases v with
  | int n =>
    rw [float]
    cases hn : Number.floatOfInt n with
    | ok x => exact trivial
    | error e =>
      have he : e = .overflow := by
        rw [Number.floatOfInt] at hn
        split at hn <;> cases hn
        rfl
      subst he
      exact hrange n rfl hn
  | float x => exact trivial
  | _ => exact meets_refuse reported

theorem meets_sectionOf {v : Value} {name : String} :
    Meets (fun s => s.isMap = true ∧ ∀ p, s.get? p = given? v name p) failure
      (sectionOf v name) := by
  rw [sectionOf, property]
  cases hget : v.get? name with
  | none => exact ⟨rfl, fun p => by rw [given?, hget]; rfl⟩
  | some s =>
    have hgiven : ∀ p, s.get? p = given? v name p := fun p => by simp [given?, hget]
    cases s with
    | null => exact ⟨rfl, hgiven⟩
    | map entries => exact ⟨rfl, hgiven⟩
    | _ => exact meets_refuse reported

theorem meets_section_bind {β : Type} {result : β → Prop} {v : Value} {name : String}
    {read : Value → Except ConfigError α} {f : α → Except ConfigError β}
    (hread : ∀ s, (∀ p, s.get? p = given? v name p) → Meets value failure (read s))
    (hf : ∀ a, value a → Meets result failure (f a)) :
    Meets result failure (sectionOf v name >>= fun s => read s >>= f) := by
  apply (meets_sectionOf reported).bind
  intro s hs
  exact (hread s hs.2).bind hf

omit reported

theorem meets_comparable {v : Value} (hcompare : v.quantity? = none → failure .incomparable) :
    Meets (fun q => v.quantity? = some q) failure (comparable v) := by
  rw [comparable]
  cases hv : v.quantity? with
  | some q => exact rfl
  | none => exact hcompare hv

include reported

theorem meets_atLeast {v : Value} {least : Nat} {m : Misconfiguration}
    (hcompare : v.quantity? = none → failure .incomparable) :
    Meets (fun q => v.quantity? = some q ∧ Scalar.less q (.ofInt least) = false) failure
      (atLeast least m v) := by
  apply (meets_comparable hcompare).bind
  intro q hq
  apply (meets_require reported).bind
  intro _ hleast
  exact ⟨hq, by simpa using hleast⟩

omit reported

theorem meets_shown {v : Value} (hlong : v.holdsLongInteger = true → failure .tooManyDigits) :
    Meets (fun s => s = v.shown) failure (shown v) := by
  rw [shown]
  split
  · next h => exact hlong h
  · exact rfl

end Config

end GeneticRepair
