import FleetConsole.Proofs.Binary64.Integer
import FleetConsole.Proofs.Fleet.Name
import FleetConsole.Table.Health

/-!
# Fractions are graded by their counts

A row that shows replicas is graded by the text of the fraction, which is cut at the slash and read
again. Since no count shows a slash and every count is read back as it was, the grade is that of the
counts themselves (`HealthScheme.gradeLabel_fraction`): the fraction is never one that needs
attention because it cannot be read.
-/

namespace FleetConsole

namespace Health

/-- The worse of two grades needs attention if one of them does. -/
theorem worse_eq_attention_iff {a b : Health} :
    a.worse b = attention ↔ a = attention ∨ b = attention := by
  cases a <;> cases b <;> decide

/-- The worse of two grades is nominal if both are. -/
theorem worse_eq_nominal_iff {a b : Health} : a.worse b = nominal ↔ a = nominal ∧ b = nominal := by
  cases a <;> cases b <;> decide

end Health

namespace Double

/-- Zero is worth nothing. -/
theorem value_zero : (zero false).value = 0 := by
  simp [value, size, zero]

/-- Zero is shown as such. -/
theorem text_zero : (zero false).text = "0" := by
  decide

end Double

namespace Replicas

/-- The value that a payload gives a count: that of the number under the key, where an integer is
taken as the number nearest to it (`roundsTo_value`), and zero if there is no number or no object to
look into. -/
def value (key : String) (payload : Json) : ℚ :=
  match Embedded.object payload with
  | .ok object =>
    match object.get? key with
    | some (.int n) => (Binary64.doubleOfInt n).value
    | some (.float x) => x.value
    | _ => 0
  | .error _ => 0

/-- An integer is taken as the number nearest to it, which is the integer itself up to 53 binary
digits. -/
structure RoundsTo (n : ℤ) (v : ℚ) : Prop where
  nearest : ∃ x : Double, x.negative = decide (n < 0) ∧ x.Encloses n.natAbs ∧ x.value = v
  same : n.natAbs ≤ 2 ^ 53 → v = n

/-- A count that a payload gives as an integer of at most 64 binary digits is worth the number
nearest to it. -/
theorem roundsTo_value {payload object : Json} {key : String} {n : ℤ}
    (hobject : Embedded.object payload = .ok object) (hget : object.get? key = some (.int n))
    (hn : n.natAbs < 2 ^ 64) : RoundsTo n (value key payload) := by
  have hvalue : value key payload = (Binary64.doubleOfInt n).value := by
    unfold value
    simp only [hobject, hget]
  obtain ⟨hnegative, hencloses⟩ := Binary64.encloses_doubleOfInt hn
  rw [hvalue]
  exact ⟨⟨_, hnegative, hencloses, rfl⟩, Binary64.value_doubleOfInt⟩

/-- A count in the object that a payload holds has the value that the payload gives it. -/
theorem value_count {payload object : Json} (h : Embedded.object payload = .ok object)
    (key : String) : (count key object).value = value key payload := by
  unfold count Json.doubleAt? value
  rw [h]
  simp only [Json.path?]
  cases object.get? key with
  | none => exact Double.value_zero
  | some j =>
    cases j with
    | int n => rfl
    | float x => rfl
    | _ => exact Double.value_zero

/-- The fraction shows two counts with the values that the payload gives them. -/
theorem exists_fraction_eq (payload : Json) :
    ∃ available all : Double, fraction payload = available.text ++ "/" ++ all.text ∧
      available.value = value "availableReplicas" payload ∧
        all.value = value "replicas" payload := by
  -- A payload that is no object shows two zeros, as an empty object does.
  cases h : Embedded.object payload with
  | error e =>
    have hvalue (key : String) : value key payload = 0 := by
      unfold value
      rw [h]
    refine ⟨.zero false, .zero false, ?_, ?_, ?_⟩
    · rw [fraction, h, Double.text_zero]
      rfl
    · rw [hvalue, Double.value_zero]
    · rw [hvalue, Double.value_zero]
  | ok object =>
    refine ⟨_, _, ?_, value_count h _, value_count h _⟩
    rw [fraction, h]

end Replicas

namespace HealthScheme

/-- A fraction of two numbers is graded by their values. -/
theorem gradeFraction_text (available all : Double) :
    gradeFraction (available.text ++ "/" ++ all.text) =
      if all.value ≤ available.value then .nominal else .pending := by
  have hcut : splitOnce? '/' (available.text ++ "/" ++ all.text) =
      some (available.text, all.text) := by
    rw [splitOnce?_eq_some_iff]
    exact ⟨by simp, available.slash_notMem_text⟩
  unfold gradeFraction
  rw [hcut]
  simp only [Binary64.ofText?_text, Binary64.ge, Double.ble_iff]

/-- A fraction is not the label of what has no replicas. -/
theorem append_slash_ne_unknown (s t : String) : s ++ "/" ++ t ≠ Replicas.unknown := by
  intro heq
  have hslash : '/' ∈ (s ++ "/" ++ t).toList := by simp
  rw [heq] at hslash
  revert hslash
  decide

/-- The replicas of a payload are nominal if as many are available as there are, and pending
otherwise. -/
theorem gradeLabel_fraction (payload : Json) :
    workload.gradeLabel (Replicas.fraction payload) =
      if Replicas.value "replicas" payload ≤ Replicas.value "availableReplicas" payload
      then .nominal else .pending := by
  obtain ⟨available, all, heq, havailable, hall⟩ := Replicas.exists_fraction_eq payload
  rw [heq, ← havailable, ← hall, ← gradeFraction_text]
  exact if_neg (append_slash_ne_unknown _ _)

end HealthScheme

end FleetConsole
