import DocMarkup.Assoc

/-!
# Laws of associations

What a key has after an entry is set, and which entries an association holds. The first laws hold of
keys that are merely equivalent; the others are about keys that are equal just when they are the
same.

Main definitions:

- {lit}`Assoc.collect`: the entries of a list, the first one of each key.

Main results:

- Theorem {lit}`Assoc.get?_congr`: equal keys have the same value.
- Theorem {lit}`Assoc.get?_of_mem`: an entry is found when no key occurs twice.
- Theorem {lit}`Assoc.get?_insertNew`: setting a key unless it is present.
- Theorems {lit}`Assoc.get?_collect` and {lit}`Assoc.keys_collect`: what a run of such settings
  leaves.
- Theorems {lit}`Assoc.get?_ofList` and {lit}`Assoc.keys_ofList`: what a run of assignments of any
  kind leaves.
- Theorem {lit}`Assoc.ofList_map`: assignments of values that depend on their keys alone.
- Theorem {lit}`Assoc.distinct_eq_eraseDups`: the distinct keys.
-/

namespace DocMarkup
namespace Assoc

/-! ## Equivalent keys -/

section Equivalence

variable {κ α : Type} [BEq κ] {entries more : List (κ × α)} {key key' : κ} {value : α}

/-- The entries in front come first. -/
theorem get?_append : get? key (entries ++ more) = (get? key entries).or (get? key more) := by
  induction entries with
  | nil => simp [get?]
  | cons entry entries ih =>
    cases hkey : entry.1 == key with
    | true => simp [get?, hkey]
    | false => simpa [get?, hkey] using ih

/-- What a key has is in an entry of a key that is equal to it. -/
theorem exists_mem_of_get? (h : get? key entries = some value) :
    ∃ key', (key' == key) = true ∧ (key', value) ∈ entries := by
  induction entries with
  | nil => simp [get?] at h
  | cons entry entries ih =>
    cases hkey : entry.1 == key with
    | true =>
      obtain rfl : entry.2 = value := by simpa [get?, hkey] using h
      exact ⟨entry.1, hkey, List.mem_cons_self⟩
    | false =>
      rcases ih (by simpa [get?, hkey] using h) with ⟨key', hkey', hmem⟩
      exact ⟨key', hkey', List.mem_cons_of_mem _ hmem⟩

variable [PartialEquivBEq κ]

/-- Equal keys have the same value. -/
theorem get?_congr (h : (key == key') = true) : get? key entries = get? key' entries := by
  induction entries with
  | nil => rfl
  | cons entry entries ih =>
    have hkey : (entry.1 == key) = (entry.1 == key') := BEq.congr_right h
    simp only [get?, hkey, ih]

/-- Equal keys are both present or both absent. -/
theorem contains_congr (h : (key == key') = true) : contains key entries = contains key' entries := by
  rw [contains, contains, get?_congr h]

/-- Of the entries whose keys are absent from an association, an absent key has what it had, and a
present one has nothing. -/
theorem get?_filter_absent (base : List (κ × α)) :
    get? key (entries.filter fun e => !contains e.1 base) =
      if contains key base then none else get? key entries := by
  induction entries with
  | nil => simp [get?]
  | cons entry entries ih =>
    cases hkey : entry.1 == key with
    | true =>
      have hpresent : contains entry.1 base = contains key base := contains_congr hkey
      cases hkeep : contains key base with
      | true => simpa [hpresent, hkeep] using ih
      | false => simp [hpresent, hkeep, get?, hkey]
    | false =>
      cases hkeep : contains entry.1 base with
      | true => simpa [hkeep, get?, hkey] using ih
      | false => simpa [hkeep, get?, hkey] using ih

end Equivalence

variable {κ α : Type} [BEq κ] [LawfulBEq κ] {entries more : List (κ × α)} {key : κ} {value : α}

/-! ## Looking up -/

/-- A key has no value exactly when it has no entry. -/
theorem get?_eq_none_iff : get? key entries = none ↔ key ∉ entries.map Prod.fst := by
  induction entries with
  | nil => simp [get?]
  | cons entry entries ih =>
    by_cases hkey : entry.1 = key
    · simp [get?, hkey]
    · have hget : get? key (entry :: entries) = get? key entries := by simp [get?, hkey]
      rw [hget, ih, List.map_cons, List.mem_cons, not_or]
      exact ⟨fun h => ⟨Ne.symm hkey, h⟩, And.right⟩

/-- A key is present exactly when it has an entry. -/
theorem contains_iff : contains key entries = true ↔ key ∈ entries.map Prod.fst := by
  unfold contains
  rw [Option.isSome_iff_ne_none, Ne, get?_eq_none_iff, Classical.not_not]

/-- What a key has is in an entry. -/
theorem mem_of_get? (h : get? key entries = some value) : (key, value) ∈ entries := by
  induction entries with
  | nil => simp [get?] at h
  | cons entry entries ih =>
    by_cases hkey : entry.1 = key
    · obtain rfl : entry.2 = value := by simpa [get?, hkey] using h
      simp [← hkey]
    · exact List.mem_cons_of_mem _ (ih (by simpa [get?, hkey] using h))

/-- An entry is found when no key occurs twice. -/
theorem get?_of_mem (hnodup : (entries.map Prod.fst).Nodup) (h : (key, value) ∈ entries) :
    get? key entries = some value := by
  induction entries with
  | nil => simp at h
  | cons entry entries ih =>
    rcases List.nodup_cons.1 hnodup with ⟨hnotMem, hnodup⟩
    rcases List.mem_cons.1 h with rfl | h
    · simp [get?]
    · have hkey : entry.1 ≠ key := by
        rintro rfl
        exact hnotMem (List.mem_map.2 ⟨_, h, rfl⟩)
      simpa [get?, hkey] using ih hnodup h

/-- A key among those that are given values from themselves has its value. -/
theorem get?_map (valueOf : κ → α) {keys : List κ} (h : key ∈ keys) :
    get? key (keys.map fun k => (k, valueOf k)) = some (valueOf key) := by
  induction keys with
  | nil => cases h
  | cons k keys ih =>
    by_cases hk : k = key
    · simp [get?, hk]
    · simpa [get?, hk] using ih ((List.mem_cons.1 h).resolve_left (Ne.symm hk))

/-! ## Setting -/

/-- A key that is present is not set again. -/
theorem insertNew_of_mem (h : key ∈ entries.map Prod.fst) :
    insertNew key value entries = entries := by
  rw [insertNew, if_pos (contains_iff.2 h)]

/-- A key that is not present gets the last entry. -/
theorem insertNew_of_not_mem (h : key ∉ entries.map Prod.fst) :
    insertNew key value entries = entries ++ [(key, value)] := by
  rw [insertNew, if_neg fun hcontains => h (contains_iff.1 hcontains)]

/-- What a key has after one was set unless it was present. -/
theorem get?_insertNew [DecidableEq κ] (key' : κ) :
    get? key (insertNew key' value entries) =
      (get? key entries).or (if key' = key then some value else none) := by
  by_cases hmem : key' ∈ entries.map Prod.fst
  · rw [insertNew_of_mem hmem]
    by_cases hkey : key' = key
    · subst hkey
      cases h : get? key' entries with
      | none => exact absurd hmem (get?_eq_none_iff.1 h)
      | some value' => simp
    · simp [hkey]
  · rw [insertNew_of_not_mem hmem, get?_append]
    by_cases hkey : key' = key
    · simp [get?, hkey]
    · simp [get?, hkey]

/-- What a key has after one was set. -/
theorem get?_insert [DecidableEq κ] (key' : κ) :
    get? key (insert key' value entries) = if key' = key then some value else get? key entries := by
  induction entries with
  | nil => simp [insert, get?]
  | cons entry entries ih =>
    by_cases hentry : entry.1 = key'
    · by_cases hkey : key' = key
      · simp [insert, get?, hentry, hkey]
      · simp [insert, get?, hentry, hkey]
    · by_cases hkey : entry.1 = key
      · have hne : key' ≠ key := fun h => hentry (hkey.trans h.symm)
        simp [insert, get?, hkey, hne, hne.symm]
      · simp only [insert, get?, beq_iff_eq, hentry, hkey, if_false, ih]

omit [LawfulBEq κ] in
/-- The keys after one was set do not depend on the values. -/
theorem keys_insert :
    (insert key value entries).map (fun e => (e.1, ())) =
      insert key () (entries.map fun e => (e.1, ())) := by
  induction entries with
  | nil => rfl
  | cons entry entries ih =>
    cases hkey : entry.1 == key with
    | true => simp [insert, hkey]
    | false => simpa [insert, hkey] using ih

omit [LawfulBEq κ] in
/-- An entry after a key was set is the new one or was there before. -/
theorem mem_insert {entry : κ × α} (h : entry ∈ insert key value entries) :
    entry.2 = value ∨ entry ∈ entries := by
  induction entries with
  | nil =>
    rw [List.mem_singleton.1 h]
    exact Or.inl rfl
  | cons first entries ih =>
    unfold insert at h
    split at h
    · rcases List.mem_cons.1 h with hfirst | hrest
      · rw [hfirst]
        exact Or.inl rfl
      · exact Or.inr (List.mem_cons_of_mem first hrest)
    · rcases List.mem_cons.1 h with hfirst | hrest
      · exact Or.inr (List.mem_cons.2 (Or.inl hfirst))
      · rcases ih hrest with hvalue | hmem
        · exact Or.inl hvalue
        · exact Or.inr (List.mem_cons_of_mem first hmem)

omit [LawfulBEq κ] in
/-- What holds of every assigned value holds of the values that are left. -/
theorem forall_ofList {q : α → Prop} {updates : List (κ × α)} (h : ∀ entry ∈ updates, q entry.2) :
    ∀ entry ∈ ofList updates, q entry.2 := by
  have hall : ∀ updates entries : List (κ × α), (∀ entry ∈ updates, q entry.2) →
      (∀ entry ∈ entries, q entry.2) → ∀ entry ∈ insertAll entries updates, q entry.2 := by
    intro updates
    induction updates with
    | nil => exact fun _ _ hentries => hentries
    | cons update updates ih =>
      intro entries hupdates hentries
      rcases List.forall_mem_cons.1 hupdates with ⟨hupdate, hupdates⟩
      refine ih _ hupdates fun entry hentry => ?_
      rcases mem_insert hentry with hvalue | hmem
      · exact hvalue ▸ hupdate
      · exact hentries entry hmem
  exact hall updates [] h (by simp)

/-- The keys when one is set unless it is present are those when it is set anyhow. -/
theorem keys_insertNew :
    (insertNew key value entries).map (fun e => (e.1, ())) =
      insert key () (entries.map fun e => (e.1, ())) := by
  by_cases hmem : key ∈ entries.map Prod.fst
  · rw [insertNew_of_mem hmem]
    induction entries with
    | nil => simp at hmem
    | cons entry entries ih =>
      by_cases hkey : entry.1 = key
      · simp [insert, hkey]
      · have hrest : key ∈ entries.map Prod.fst := by simpa [Ne.symm hkey] using hmem
        simpa [insert, hkey] using ih hrest
  · rw [insertNew_of_not_mem hmem]
    induction entries with
    | nil => rfl
    | cons entry entries ih =>
      have hkey : entry.1 ≠ key := fun h => hmem (by simp [h])
      have hrest : key ∉ entries.map Prod.fst := fun h => hmem (List.mem_cons_of_mem _ h)
      simpa [insert, hkey] using ih hrest

/-! ## Collecting -/

section Collect

variable {β : Type}

/-- A key, if there is one, set to a value unless it is present. -/
def addNew (key? : Option κ) (value : α) (entries : List (κ × α)) : List (κ × α) :=
  match key? with
  | some key => insertNew key value entries
  | none => entries

/-- The values of those members of a list that have a key; of several of one key the first
counts. -/
def collect (key? : β → Option κ) (valueOf : β → α) (entries : List (κ × α)) (l : List β) :
    List (κ × α) :=
  l.foldl (fun entries b => addNew (key? b) (valueOf b) entries) entries

/-- A key has what the first member of that key gives. -/
theorem get?_collect [DecidableEq κ] (key? : β → Option κ) (valueOf : β → α)
    (entries : List (κ × α)) (l : List β) :
    get? key (collect key? valueOf entries l) =
      (get? key entries).or ((l.find? fun b => key? b = some key).map valueOf) := by
  induction l generalizing entries with
  | nil => simp [collect]
  | cons b l ih =>
    rw [collect, List.foldl_cons, ← collect, ih, List.find?_cons]
    cases hb : key? b with
    | none => simp [addNew]
    | some key' =>
      by_cases hkey : key' = key
      · simp [addNew, get?_insertNew, hkey]
      · simp [addNew, get?_insertNew, hkey]

/-- A key that is set unless it is present keeps the keys distinct. -/
theorem nodup_insertNew (h : (entries.map Prod.fst).Nodup) :
    ((insertNew key value entries).map Prod.fst).Nodup := by
  by_cases hmem : key ∈ entries.map Prod.fst
  · rw [insertNew_of_mem hmem]
    exact h
  · rw [insertNew_of_not_mem hmem, List.map_append]
    refine List.nodup_append.2 ⟨h, by simp, ?_⟩
    intro k hk k' hk' heq
    obtain rfl : k' = key := List.mem_singleton.1 hk'
    exact hmem (heq ▸ hk)

/-- The keys that are collected are distinct. -/
theorem nodup_collect (key? : β → Option κ) (valueOf : β → α)
    (hentries : (entries.map Prod.fst).Nodup) (l : List β) :
    ((collect key? valueOf entries l).map Prod.fst).Nodup := by
  induction l generalizing entries with
  | nil => exact hentries
  | cons b l ih =>
    have hadded : ((addNew (key? b) (valueOf b) entries).map Prod.fst).Nodup := by
      unfold addNew
      cases key? b with
      | none => exact hentries
      | some key => exact nodup_insertNew hentries
    exact ih hadded

omit [LawfulBEq κ] in
/-- The keys are those of the members, in the order of their first one, when each member sets its own
key or, without one, changes nothing. -/
theorem keys_foldl {step : List (κ × α) → β → List (κ × α)} {key? : β → Option κ}
    (hnone : ∀ entries b, key? b = none → step entries b = entries)
    (hsome : ∀ entries b key, key? b = some key → (step entries b).map (fun e => (e.1, ())) =
      insert key () (entries.map fun e => (e.1, ()))) (l : List β) :
    (l.foldl step []).map Prod.fst = distinct (l.filterMap key?) := by
  have hall : ∀ entries : List (κ × α), (l.foldl step entries).map (fun e => (e.1, ())) =
      insertAll (entries.map fun e => (e.1, ())) ((l.filterMap key?).map fun k => (k, ())) := by
    induction l with
    | nil =>
      intro entries
      rfl
    | cons b l ih =>
      intro entries
      rw [List.foldl_cons, ih, List.filterMap_cons]
      cases hkey : key? b with
      | none => rw [hnone entries b hkey]
      | some key =>
        rw [hsome entries b key hkey]
        rfl
  have hkeys := congrArg (List.map Prod.fst) (hall [])
  rw [List.map_map] at hkeys
  exact hkeys

/-- The keys that are collected are those of the members, in the order of their first one. -/
theorem keys_collect (key? : β → Option κ) (valueOf : β → α) (l : List β) :
    (collect key? valueOf [] l).map Prod.fst = distinct (l.filterMap key?) := by
  refine keys_foldl ?_ ?_ l
  · intro entries b hkey
    rw [hkey, addNew]
  · intro entries b key hkey
    rw [hkey, addNew, keys_insertNew]

end Collect

/-! ## Assignments -/

omit [LawfulBEq κ] in
/-- The keys of a run of assignments are those assigned, in the order of their first one. -/
theorem keys_ofList (updates : List (κ × α)) :
    (ofList updates).map Prod.fst = distinct (updates.map Prod.fst) := by
  have hkeys : (ofList updates).map Prod.fst =
      distinct (updates.filterMap (some ∘ Prod.fst)) := by
    refine keys_foldl ?_ ?_ updates
    · intro entries update hnone
      cases hnone
    · intro entries update key hkey
      cases hkey
      exact keys_insert
  rwa [List.filterMap_eq_map] at hkeys

/-- A key has the last value that is assigned to it. -/
theorem get?_insertAll [DecidableEq κ] (updates entries : List (κ × α)) :
    get? key (insertAll entries updates) =
      ((updates.filter fun e => e.1 = key).getLast?.map Prod.snd).or (get? key entries) := by
  induction updates generalizing entries with
  | nil => simp [insertAll]
  | cons update updates ih =>
    rw [insertAll, List.foldl_cons, ← insertAll, ih, get?_insert]
    by_cases hkey : update.1 = key
    · rw [List.filter_cons_of_pos (by simpa using hkey), List.getLast?_cons, if_pos hkey]
      cases (updates.filter fun e => e.1 = key).getLast? with
      | none => rfl
      | some last => rfl
    · rw [List.filter_cons_of_neg (by simpa using hkey), if_neg hkey]

/-- A key has the last value that is assigned to it, and none when nothing is. -/
theorem get?_ofList [DecidableEq κ] (updates : List (κ × α)) :
    get? key (ofList updates) = (updates.filter fun e => e.1 = key).getLast?.map Prod.snd := by
  rw [ofList, get?_insertAll, get?, Option.or_none]

/-! ## Values that depend on their keys -/

/-- Assigning to a key a value that it determines changes nothing when the key has that value. -/
theorem insert_map_of_mem (render : κ → α) {keys : List κ} (h : key ∈ keys) :
    insert key (render key) (keys.map fun k => (k, render k)) =
      keys.map fun k => (k, render k) := by
  induction keys with
  | nil => simp at h
  | cons k keys ih =>
    by_cases hkey : k = key
    · simp [insert, hkey]
    · have hmem : key ∈ keys := (List.mem_cons.1 h).resolve_left (Ne.symm hkey)
      simpa [insert, hkey] using ih hmem

/-- Assigning a value to a new key adds an entry. -/
theorem insert_map_of_not_mem (render : κ → α) {keys : List κ} (h : key ∉ keys) :
    insert key (render key) (keys.map fun k => (k, render k)) =
      (keys ++ [key]).map fun k => (k, render k) := by
  induction keys with
  | nil => rfl
  | cons k keys ih =>
    rcases not_or.1 (mt List.mem_cons.2 h) with ⟨hkey, hmem⟩
    simpa [insert, Ne.symm hkey] using ih hmem

/-- Assignments of values that depend on their keys alone: the distinct keys in the order of their
first entry, each with its value. -/
theorem ofList_map (render : κ → α) (keys : List κ) :
    ofList (keys.map fun key => (key, render key)) =
      (distinct keys).map fun key => (key, render key) := by
  have hall : ∀ keys before : List κ,
      insertAll (before.map fun key => (key, render key)) (keys.map fun key => (key, render key)) =
        ((insertAll (before.map fun key => (key, ())) (keys.map fun key => (key, ()))).map
          Prod.fst).map fun key => (key, render key) := by
    intro keys
    induction keys with
    | nil =>
      intro before
      simp [insertAll]
    | cons key keys ih =>
      intro before
      by_cases hmem : key ∈ before
      · have hvalue := insert_map_of_mem render hmem
        have hunit := insert_map_of_mem (fun _ => ()) hmem
        simpa [insertAll, hvalue, hunit] using ih before
      · have hvalue := insert_map_of_not_mem render hmem
        have hunit := insert_map_of_not_mem (fun _ => ()) hmem
        have hnext := ih (before ++ [key])
        rw [← hvalue, ← hunit] at hnext
        simpa [insertAll] using hnext
  exact hall keys []

/-! ## Distinct keys -/

/-- The distinct keys are the keys without their later occurrences. -/
theorem distinct_eq_eraseDups (keys : List κ) : distinct keys = keys.eraseDups := by
  have hall : ∀ keys before : List κ,
      insertAll (before.map fun key => (key, ())) (keys.map fun key => (key, ())) =
        (before ++ (keys.filter fun key => !before.contains key).eraseDups).map
          fun key => (key, ()) := by
    intro keys
    induction keys with
    | nil =>
      intro before
      simp [insertAll]
    | cons key keys ih =>
      intro before
      by_cases hmem : key ∈ before
      · have hunit := insert_map_of_mem (fun _ => ()) hmem
        simpa [insertAll, hunit, hmem] using ih before
      · have hunit := insert_map_of_not_mem (fun _ => ()) hmem
        have hfilter : (keys.filter fun k => !(before ++ [key]).contains k) =
            (keys.filter fun k => !before.contains k).filter fun k => !k == key := by
          rw [List.filter_filter]
          congr 1
          funext k
          by_cases hk : k = key
          · simp [hk]
          · simp [hk]
        have hnext := ih (before ++ [key])
        rw [← hunit, hfilter] at hnext
        simpa [insertAll, hmem, List.eraseDups_cons] using hnext
  have hkeys := congrArg (List.map Prod.fst) (hall keys [])
  have hnone : (keys.filter fun key => !([] : List κ).contains key) = keys := by simp
  rw [hnone, List.nil_append, List.map_map] at hkeys
  exact hkeys.trans (List.map_id _)

/-- The distinct keys are the keys. -/
theorem mem_distinct {keys : List κ} : key ∈ distinct keys ↔ key ∈ keys := by
  rw [distinct_eq_eraseDups, List.mem_eraseDups]

/-- No key occurs twice among the distinct keys. -/
theorem nodup_distinct (keys : List κ) : (distinct keys).Nodup := by
  have hkeys := keys_collect some (fun _ => ()) keys
  have hnone : (([] : List (κ × Unit)).map Prod.fst).Nodup := List.nodup_nil
  rw [List.filterMap_some] at hkeys
  rw [← hkeys]
  exact nodup_collect some (fun _ => ()) hnone keys

/-- Keys of which none occurs twice are the distinct ones. -/
theorem distinct_of_nodup {keys : List κ} (h : keys.Nodup) : distinct keys = keys := by
  rw [distinct_eq_eraseDups]
  induction keys with
  | nil => rfl
  | cons key keys ih =>
    rcases List.nodup_cons.1 h with ⟨hnotMem, hrest⟩
    have hothers : keys.filter (fun k => !k == key) = keys := by
      refine List.filter_eq_self.2 fun k hk => ?_
      have hne : k ≠ key := fun heq => hnotMem (heq ▸ hk)
      simp [hne]
    rw [List.eraseDups_cons, hothers, ih hrest]

end Assoc
end DocMarkup
