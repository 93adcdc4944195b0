/-!
# Keyed entries

Lists of entries that are told apart by a key and stand in the order in which their keys came first.
`Keyed.lookup_put` says what is found after an entry was put, and `Keyed.foldl_put_of_nodup` says
that distinct keys displace nothing.
-/

namespace ThreatMatrix.Keyed

variable {α κ : Type} [DecidableEq κ]

/-- Entries with one more: an entry of the same key gives its place to the new one. -/
def put (key : α → κ) (entries : List α) (entry : α) : List α :=
  if key entry ∈ entries.map key then
    entries.map fun other => if key other = key entry then entry else other
  else entries ++ [entry]

/-- Replacing the entries of a key changes what is found under that key and nothing else. -/
theorem lookup_map {β : Type} [BEq κ] [LawfulBEq κ] (entries : List (κ × β)) (key sought : κ)
    (value : β) :
    (entries.map fun other => if other.1 = key then (key, value) else other).lookup sought =
      if sought = key ∧ key ∈ entries.map Prod.fst then some value
      else entries.lookup sought := by
  induction entries with
  | nil => simp
  | cons first more inductionHypothesis =>
    obtain ⟨name, old⟩ := first
    by_cases isSought : sought = key
    · subst isSought
      by_cases same : name = sought
      · simp [same]
      · have other : (sought == name) = false := by simpa using Ne.symm same
        rw [List.map_cons, if_neg same, List.lookup_cons, List.lookup_cons, other,
          inductionHypothesis]
        have keys : sought ∈ ((name, old) :: more).map Prod.fst ↔ sought ∈ more.map Prod.fst := by
          simp [Ne.symm same]
        simp only [keys]
    · by_cases same : name = key
      · have other : (sought == key) = false := by simpa using isSought
        simp [same, isSought, List.lookup_cons, other, inductionHypothesis]
      · simp [same, isSought, List.lookup_cons, inductionHypothesis]

/-- What was put is found under its key, and nothing else has changed. -/
theorem lookup_put {β : Type} [BEq κ] [LawfulBEq κ] (entries : List (κ × β)) (key sought : κ)
    (value : β) :
    (put Prod.fst entries (key, value)).lookup sought =
      if sought = key then some value else entries.lookup sought := by
  unfold put
  split
  · next present =>
    rw [lookup_map]
    simp [present]
  · next fresh =>
    have absent : entries.lookup key = none := by
      refine List.lookup_eq_none_iff.2 fun entry member => ?_
      have apart : key ≠ entry.1 := fun same => fresh (List.mem_map.2 ⟨entry, member, same.symm⟩)
      simpa using apart
    rw [List.lookup_append]
    by_cases isSought : sought = key
    · simp [isSought, absent]
    · have other : (sought == key) = false := by simpa using isSought
      simp [isSought, List.lookup_cons, other]

/-- Putting entries of distinct keys one after the other only lists them. -/
theorem foldl_put_of_nodup {key : α → κ} {entries : List α} (distinct : (entries.map key).Nodup) :
    entries.foldl (put key) [] = entries := by
  have fromHere : ∀ rest listed : List α, ((listed ++ rest).map key).Nodup →
      rest.foldl (put key) listed = listed ++ rest := by
    intro rest
    induction rest with
    | nil => simp
    | cons entry more inductionHypothesis =>
      intro listed distinct
      have fresh : key entry ∉ listed.map key := by
        rw [List.map_append, List.map_cons] at distinct
        intro member
        exact (List.nodup_append.1 distinct).2.2 _ member _ List.mem_cons_self rfl
      have placed : put key listed entry = listed ++ [entry] := by
        unfold put
        rw [if_neg fresh]
      rw [List.foldl_cons, placed]
      simpa using inductionHypothesis (listed ++ [entry]) (by simpa using distinct)
  simpa using fromHere entries [] (by simpa using distinct)

/-- An item that is kept under its key is found under that key and under no other. -/
theorem lookup_map_eq_some_iff [BEq κ] [LawfulBEq κ] {key : α → κ} {items : List α}
    (distinct : (items.map key).Nodup) {sought : κ} {item : α} :
    (items.map fun each => (key each, each)).lookup sought = some item ↔
      item ∈ items ∧ key item = sought := by
  induction items with
  | nil => simp
  | cons first more inductionHypothesis =>
    rw [List.map_cons, List.nodup_cons] at distinct
    rw [List.map_cons, List.lookup_cons]
    by_cases same : sought = key first
    · subst same
      have alone : ∀ other ∈ more, key other ≠ key first := fun other member isSame =>
        distinct.1 (isSame ▸ List.mem_map_of_mem member)
      simp only [beq_self_eq_true, Option.some.injEq, List.mem_cons]
      constructor
      · rintro rfl
        exact ⟨.inl rfl, rfl⟩
      · rintro ⟨rfl | later, isKey⟩
        · rfl
        · exact absurd isKey (alone item later)
    · have other : (sought == key first) = false := by simpa using same
      rw [other]
      simp only [inductionHypothesis distinct.2, List.mem_cons]
      constructor
      · rintro ⟨member, isKey⟩
        exact ⟨.inr member, isKey⟩
      · rintro ⟨rfl | later, isKey⟩
        · exact absurd isKey.symm same
        · exact ⟨later, isKey⟩

end ThreatMatrix.Keyed
