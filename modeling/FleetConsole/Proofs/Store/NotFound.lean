import FleetConsole.Hub.Store
import FleetConsole.Proofs.Fleet.Name
import FleetConsole.Store.Snapshot

/-!
# The name of what is not found

That an object is not found is said with its name as it was understood, not as it was written. Every
store goes by what a name is read as, so a lookup of the name that is shown has the same answer as
the lookup that failed (`Snapshot.get_congr_name`, `Hub.get_congr_name`).
`QualifiedName.shown_names_same` joins this to what is read of a name that is written: the same
name, as long as its namespace can be told from the name and does not stand for none.
-/

namespace FleetConsole

/-- A snapshot is searched for what a name is read as. -/
theorem Snapshot.get_congr_name (snapshot : Snapshot) (l : Lookup) {name : String}
    (h : QualifiedName.ofText name = QualifiedName.ofText l.name) :
    snapshot.store.get { l with name } = snapshot.store.get l := by
  simp only [store, get?, Lookup.notFound, h]

/-- A hub is asked for what a name is read as. -/
theorem Hub.get_congr_name (hub : Hub) (l : Lookup) {name : String}
    (h : QualifiedName.ofText name = QualifiedName.ofText l.name) :
    hub.store.get { l with name } = hub.store.get l := by
  have haddress : sentAddress? (.get { l with name }) = sentAddress? (.get l) := by
    simp only [sentAddress?, address?, h]
  simp only [store, get, fetch, haddress, Lookup.notFound, h]

/-- What is shown of a name that was read is read as that name. Of a name with a namespace the same
name is read back exactly if the namespace is not empty, has no slash and is not the dash; an empty
namespace and the dash are read as none, and a name without a namespace as it is. So the error that
an object is not found names the object that was looked up, and to look up what it names is answered
in the same way by a snapshot and by a hub. -/
theorem QualifiedName.shown_names_same (s ns name : String) (l : Lookup) :
    ofText (ofText s).text = ofText s ∧
      (ofText (text ⟨some ns, name⟩) = ⟨some ns, name⟩ ↔
        ns ≠ "" ∧ '/' ∉ ns.toList ∧ ns ≠ "-") ∧
      (∀ sentinel ∈ [none, some "", some "-"], ofText (text ⟨sentinel, name⟩) = ⟨none, name⟩) ∧
      ∃ shown, l.notFound = .notFound l.coordinate.text shown ∧ ofText shown = ofText l.name ∧
        (∀ snapshot : Snapshot,
          snapshot.store.get { l with name := shown } = snapshot.store.get l) ∧
        ∀ hub : Hub, hub.store.get { l with name := shown } = hub.store.get l := by
  have hshown := ofText_text_ofText l.name
  refine ⟨ofText_text_ofText s, ?_, ?_, (ofText l.name).text, rfl, hshown,
    fun snapshot => snapshot.get_congr_name l hshown, fun hub => hub.get_congr_name l hshown⟩
  · rw [ofText_text_eq_self_iff, IsSentinel, noNamespace, not_or]
    exact and_left_comm
  · have hempty : ofText (text ⟨some "", name⟩) = ⟨none, name⟩ := by
      rw [ofText_text (by decide), if_pos (.inl rfl)]
    have hdash : ofText (text ⟨some "-", name⟩) = ⟨none, name⟩ := by
      rw [ofText_text (by decide), if_pos (.inr rfl)]
    simp only [List.forall_mem_cons]
    exact ⟨ofText_text_none name, hempty, hdash, List.forall_mem_nil _⟩

end FleetConsole
