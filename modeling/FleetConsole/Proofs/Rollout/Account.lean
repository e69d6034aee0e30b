import FleetConsole.Proofs.Rollout.ReportIndex
import Mathlib.Data.Finset.Card

/-!
# Every report is accounted for

The index is built in one pass: a report is entered under its key, and where it replaces another its
key is noted. `ReportIndex.Accounts` says what entries and notes have to do with the reports that
were taken in so far, and one more report preserves it (`Accounts.insert`). So the index of a list
of reports has an entry for every key, and a note for every report whose key came before
(`ReportIndex.ofReports_describes`). What a key finds, and how many keys there are, depends on the
order of the reports only as far as they have the same key.
-/

namespace FleetConsole.ReportIndex

/-- The keys that reports have in common with an earlier report, in the order of the reports. -/
def repeatedKeys (reports : List StatusReport) : List String :=
  (reports.zipIdx.filter fun (r, i) => ∃ earlier ∈ reports.take i, earlier.key = r.key).map
    (·.1.key)

/-- Whether the key of one more report is repeated depends on the reports before it alone. -/
theorem repeatedKeys_concat (reports : List StatusReport) (report : StatusReport) :
    repeatedKeys (reports ++ [report]) =
      repeatedKeys reports ++
        if ∃ earlier ∈ reports, earlier.key = report.key then [report.key] else [] := by
  unfold repeatedKeys
  rw [List.zipIdx_append, List.filter_append, List.map_append]
  congr 1
  · congr 1
    refine List.filter_congr fun ⟨r, i⟩ hmem => ?_
    have hi : i ≤ reports.length := by
      have hlt := List.snd_lt_of_mem_zipIdx hmem
      omega
    simp only [List.take_append_of_le_length hi]
  · by_cases h : ∃ earlier ∈ reports, earlier.key = report.key
    · simp [h]
    · simp [h]

/-- What entries and duplicates have to do with the reports that were taken in so far. -/
structure Accounts (index : ReportIndex) (reports : List StatusReport) : Prop where
  nodup : (index.entries.map (·.1)).Nodup
  mem_iff : ∀ key, key ∈ index.entries.map (·.1) ↔ ∃ r ∈ reports, r.key = key
  duplicates : index.duplicates = repeatedKeys reports
  total : index.size + index.duplicates.length = reports.length

/-- A key finds an entry if it is the key of one. -/
theorem isSome_lookup_iff {entries : List (String × StatusReport)} {key : String} :
    (entries.lookup key).isSome ↔ key ∈ entries.map (·.1) := by
  induction entries with
  | nil => simp
  | cons entry rest ih =>
    rw [lookup_cons_if, List.map_cons, List.mem_cons, ← ih]
    by_cases h : key = entry.1
    · simp [h]
    · simp [h]

/-- Setting an entry adds its key, unless the key is there already. -/
theorem map_fst_setEntry (key : String) (report : StatusReport)
    (entries : List (String × StatusReport)) :
    (setEntry key report entries).map (·.1) =
      if key ∈ entries.map (·.1) then entries.map (·.1) else entries.map (·.1) ++ [key] := by
  induction entries with
  | nil => rfl
  | cons entry rest ih =>
    obtain ⟨k, r⟩ := entry
    unfold setEntry
    by_cases hk : key = k
    · simp [hk]
    · rw [if_neg hk, List.map_cons, ih, List.map_cons]
      by_cases hmem : key ∈ rest.map (·.1)
      · simp [hmem]
      · simp [hmem, hk]

/-- One more report is accounted for, as a new entry or as a duplicate. -/
theorem Accounts.insert {index : ReportIndex} {reports : List StatusReport}
    (h : index.Accounts reports) (report : StatusReport) :
    (index.insert report).Accounts (reports ++ [report]) := by
  have hkeys : (index.insert report).entries.map (·.1) = _ :=
    map_fst_setEntry report.key report index.entries
  have hduplicates : (index.insert report).duplicates =
      if report.key ∈ index.entries.map (·.1) then index.duplicates ++ [report.key]
      else index.duplicates := by
    simp only [ReportIndex.insert, isSome_lookup_iff]
  have hrepeated := repeatedKeys_concat reports report
  have hmem (key : String) : (∃ r ∈ reports ++ [report], r.key = key) ↔
      key ∈ index.entries.map (·.1) ∨ report.key = key := by
    rw [h.mem_iff]
    simp [or_and_right, exists_or]
  have hsize (i : ReportIndex) : i.size = (i.entries.map (·.1)).length :=
    (List.length_map _).symm
  simp only [← h.mem_iff] at hrepeated
  refine ⟨?_, fun key => ?_, ?_, ?_⟩
  · rw [hkeys]
    split_ifs with hknown
    · exact h.nodup
    · rw [← List.concat_eq_append, List.nodup_concat]
      exact ⟨hknown, h.nodup⟩
  · rw [hkeys, hmem]
    split_ifs with hknown
    · exact (or_iff_left_of_imp fun heq => heq ▸ hknown).symm
    · rw [List.mem_append, List.mem_singleton, eq_comm (a := key)]
  · rw [hduplicates, hrepeated, h.duplicates]
    split_ifs
    · rfl
    · exact (List.append_nil _).symm
  · have htotal := h.total
    rw [hsize] at htotal ⊢
    rw [hkeys, hduplicates, List.length_append, List.length_singleton]
    split_ifs
    · rw [List.length_append, List.length_singleton]
      omega
    · rw [List.length_append, List.length_singleton]
      omega

/-- The index of reports accounts for all of them. -/
theorem accounts_ofReports (reports : List StatusReport) :
    (ofReports reports).Accounts reports := by
  -- The index takes the reports in from the front, so the last one is the step.
  induction reports using List.reverseRecOn with
  | nil => exact ⟨List.nodup_nil, by simp [ofReports], rfl, rfl⟩
  | append_singleton before report ih =>
    have hstep : ofReports (before ++ [report]) = (ofReports before).insert report := by
      simp [ofReports]
    rw [hstep]
    exact ih.insert report

/-- There are as many entries as there are different keys. -/
theorem Accounts.size_eq {index : ReportIndex} {reports : List StatusReport}
    (h : index.Accounts reports) : index.size = (reports.map (·.key)).toFinset.card := by
  have hkeys : (index.entries.map (·.1)).toFinset = (reports.map (·.key)).toFinset := by
    ext key
    rw [List.mem_toFinset, List.mem_toFinset, h.mem_iff, List.mem_map]
  rw [← hkeys, List.toFinset_card_of_nodup h.nodup, List.length_map]
  rfl

/-- What an index says about the reports that it is made of. -/
structure Describes (index : ReportIndex) (reports : List StatusReport) : Prop where
  /-- A key finds the last report that carries it. -/
  found : ∀ key r, index.get? key = some r ↔ IsLast (·.key = key) r reports
  /-- A key finds nothing if no report carries it. -/
  missing : ∀ key, index.get? key = none ↔ ∀ r ∈ reports, r.key ≠ key
  /-- The different keys are counted. -/
  size : index.size = (reports.map (·.key)).toFinset.card
  /-- The key of a report is a duplicate if an earlier report has the same. -/
  duplicates : index.duplicates = repeatedKeys reports
  /-- Every report is counted once. -/
  total : index.size + index.duplicates.length = reports.length

/-- The same reports in another order, in which those with the same key come as they came. -/
structure Reordered (reports others : List StatusReport) : Prop where
  perm : reports.Perm others
  order : ∀ key, others.filter (·.key = key) = reports.filter (·.key = key)

/-- Neighbors with different keys may change places. -/
theorem reordered_swap {a b : StatusReport} (h : a.key ≠ b.key) (before after : List StatusReport) :
    Reordered (before ++ a :: b :: after) (before ++ b :: a :: after) := by
  refine ⟨(List.Perm.swap b a after).append_left before, fun key => ?_⟩
  rw [List.filter_append, List.filter_append]
  by_cases ha : a.key = key
  · have hb : b.key ≠ key := fun hb => h (ha.trans hb.symm)
    simp [ha, hb]
  · simp [List.filter_cons, ha]

/-- What a key finds depends on the reports that carry it alone. -/
theorem get?_ofReports_eq_getLast? (reports : List StatusReport) (key : String) :
    (ofReports reports).get? key = (reports.filter (·.key = key)).getLast? := by
  rw [get?_ofReports, ← List.head?_filter, List.filter_reverse, List.head?_reverse]

/-- The index of a list of reports finds the last report with a key, counts the different keys, and
notes the key of each report that has it from an earlier one. In what order reports with different
keys come is of no consequence for what is found and counted. -/
theorem ofReports_describes (reports : List StatusReport) :
    (ofReports reports).Describes reports ∧
      ∀ others, Reordered reports others →
        (∀ key, (ofReports others).get? key = (ofReports reports).get? key) ∧
          (ofReports others).size = (ofReports reports).size := by
  have haccounts := accounts_ofReports reports
  refine ⟨⟨fun key r => ?_, fun key => ?_, haccounts.size_eq, haccounts.duplicates,
    haccounts.total⟩, fun others h => ⟨fun key => ?_, ?_⟩⟩
  · rw [get?_ofReports]
    exact find?_reverse_eq_some_iff
  · rw [get?_ofReports]
    simp
  · rw [get?_ofReports_eq_getLast?, get?_ofReports_eq_getLast?, h.order]
  · rw [(accounts_ofReports others).size_eq, haccounts.size_eq,
      List.toFinset_eq_of_perm _ _ (h.perm.map _)]

/-- Reports about two objects have one key after joining. A report with another key that comes
before them changes neither what is found nor what is counted. -/
theorem ofReports_describes_joined :
    let first : StatusReport := ⟨"web.v1", "shop", "Service", .int 1⟩
    let other : StatusReport := ⟨"api", "shop", "Service", .int 2⟩
    let last : StatusReport := ⟨"v1", "shop.web", "Service", .int 3⟩
    Reordered [first, other, last] [other, first, last] ∧
      (ofReports [other, first, last]).get? "shop.web.v1.Service" = some last ∧
      (ofReports [other, first, last]).size = 2 := by
  intro first other last
  have hkey : first.key ≠ other.key := by decide
  have h : Reordered [first, other, last] [other, first, last] := reordered_swap hkey [] [last]
  obtain ⟨hfound, hsize⟩ := (ofReports_describes [first, other, last]).2 _ h
  refine ⟨h, ?_, ?_⟩
  · rw [hfound]
    decide
  · rw [hsize]
    decide

end FleetConsole.ReportIndex
