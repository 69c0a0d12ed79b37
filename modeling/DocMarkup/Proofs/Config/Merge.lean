import DocMarkup.Config.Merge
import DocMarkup.Proofs.Assoc
import DocMarkup.Proofs.Yaml.Key

/-!
# Overriding by paths

A mapping laid over another one overrides it path by path: where the upper one leads to a value that
is no mapping, that value counts; where both lead to mappings, these are merged; and where the upper
one leads to nothing, the lower one shows through, unless the way there passes a value of the upper
one that is no mapping. Laying the same mapping over once more changes nothing.

Main definitions:

- {lit}`Yaml.Value.at?`: the value that a path of keys leads to.
- {lit}`Yaml.Value.reach`: how far a path can be followed.
- {lit}`Yaml.Value.IsNested`: a value whose mappings have proper keys and do not hold themselves.

Main results:

- Theorem {lit}`Config.at?_mergeValue`: what a path leads to that the upper value follows to its end.
- Theorem {lit}`Config.at?_mergeValue_of_none`: what a path leads to that the upper value leaves.
- Theorem {lit}`Config.mergeValue_twice`: laying a value over a second time.
- Theorem {lit}`Config.merge_overrides`: merging as overriding by paths.
-/

namespace DocMarkup

open Yaml (Value)

/-! ## Paths -/

namespace Yaml
namespace Value

/-- The value that a path of keys leads to, when every step is a mapping that has the key. -/
def at? : List Value → Value → Option Value
  | [], v => some v
  | key :: path, v => (v.entries?.bind (Assoc.get? key)).bind (at? path)

/-- The longest beginning of a path that leads to a value. -/
def reach : List Value → Value → List Value
  | [], _ => []
  | key :: path, v =>
    match v.entries?.bind (Assoc.get? key) with
    | some next => key :: reach path next
    | none => []

variable {v next : Value} {key : Value} {path : List Value} {entries : List (Value × Value)}

/-- A path through a mapping. -/
theorem at?_cons_map :
    at? (key :: path) (.map entries) = (Assoc.get? key entries).bind (at? path) := rfl

/-- No path goes through a value that is no mapping. -/
theorem at?_cons_of_none (hv : v.entries? = none) : at? (key :: path) v = none := by
  rw [at?, hv]
  rfl

/-- A path can be followed as far as it goes. -/
theorem reach_isPrefix (path : List Value) (v : Value) : reach path v <+: path := by
  induction path generalizing v with
  | nil => exact List.nil_prefix
  | cons key path ih =>
    cases hnext : v.entries?.bind (Assoc.get? key) with
    | none => simp [reach, hnext]
    | some next => simpa [reach, hnext, List.cons_prefix_cons] using ih next

/-- The followed beginning of a path leads to a value. -/
theorem isSome_at?_reach (path : List Value) (v : Value) : (at? (reach path v) v).isSome := by
  induction path generalizing v with
  | nil => rfl
  | cons key path ih =>
    cases hnext : v.entries?.bind (Assoc.get? key) with
    | none => simp [reach, hnext, at?]
    | some next => simpa [reach, hnext, at?] using ih next

/-- Every beginning of a path that leads to a value is followed. -/
theorem isPrefix_reach {path part : List Value} {v : Value} (hpart : part <+: path)
    (hsome : (at? part v).isSome) : part <+: reach path v := by
  induction part generalizing path v with
  | nil => exact List.nil_prefix
  | cons key part ih =>
    cases path with
    | nil => simp at hpart
    | cons key' path =>
      obtain rfl : key = key' := (List.cons_prefix_cons.1 hpart).1
      cases hnext : v.entries?.bind (Assoc.get? key) with
      | none => simp [at?, hnext] at hsome
      | some next =>
        have hrest : (at? part next).isSome := by simpa [at?, hnext] using hsome
        simpa [reach, hnext, List.cons_prefix_cons] using ih (List.cons_prefix_cons.1 hpart).2 hrest

/-! ## Nested values -/

/-- Every key of some entries is equal to itself and to no other one. -/
structure HasKeys (entries : List (Value × Value)) : Prop where
  refl : ∀ e ∈ entries, (e.1 == e.1) = true
  distinct : entries.Pairwise fun e f => (e.1 == f.1) = false

/-- A value that is no mapping, or a mapping with proper keys whose values are nested in turn. -/
inductive IsNested : Value → Prop
  | leaf {v : Value} (h : v.entries? = none) : IsNested v
  | mapping {entries : List (Value × Value)} (keys : HasKeys entries)
      (values : ∀ e ∈ entries, IsNested e.2) : IsNested (.map entries)

/-- A nested value with entries is the mapping of them. -/
theorem IsNested.eq_map (hv : v.IsNested) (hentries : v.entries? = some entries) :
    v = .map entries := by
  cases hv with
  | leaf h =>
    rw [h] at hentries
    cases hentries
  | mapping keys values =>
    cases hentries
    rfl

/-- What a nested mapping holds is nested. -/
theorem IsNested.of_mem (h : (Value.map entries).IsNested) {e : Value × Value}
    (he : e ∈ entries) : e.2.IsNested := by
  cases h with
  | leaf h => cases h
  | mapping keys values => exact values e he

/-- What a key of a nested mapping has is nested. -/
theorem IsNested.of_get? (h : (Value.map entries).IsNested) (hget : Assoc.get? key entries = some v) :
    v.IsNested := by
  rcases Assoc.exists_mem_of_get? hget with ⟨key', _, hmem⟩
  exact h.of_mem hmem

/-- What a path leads to in a nested value is nested. -/
theorem IsNested.of_at? (hv : v.IsNested) (hpath : at? path v = some next) : next.IsNested := by
  induction path generalizing v with
  | nil =>
    obtain rfl : v = next := Option.some.inj hpath
    exact hv
  | cons key path ih =>
    rcases Option.bind_eq_some_iff.1 hpath with ⟨inner, hstep, hrest⟩
    rcases Option.bind_eq_some_iff.1 hstep with ⟨entries, hentries, hget⟩
    obtain rfl := hv.eq_map hentries
    exact ih (hv.of_get? hget) hrest

/-- Among proper keys an entry is found. -/
theorem HasKeys.get?_of_mem (h : HasKeys entries) {e : Value × Value} (he : e ∈ entries) :
    Assoc.get? e.1 entries = some e.2 := by
  induction entries with
  | nil => cases he
  | cons first entries ih =>
    rcases List.pairwise_cons.1 h.distinct with ⟨hfirst, hrest⟩
    rcases List.mem_cons.1 he with rfl | hmem
    · simp [Assoc.get?, h.refl e List.mem_cons_self]
    · have hkeys : HasKeys entries := ⟨fun e he => h.refl e (List.mem_cons_of_mem _ he), hrest⟩
      simpa [Assoc.get?, hfirst e hmem] using ih hkeys hmem

end Value
end Yaml

/-! ## One level -/

namespace Config

variable {base update : List (Value × Value)} {key old new v : Value} {path : List Value}

/-- A value laid over a mapping is merged with it when it is a mapping too. -/
theorem mergeValue_map :
    mergeValue (.map update) (.map base) = .map (merge base update) := by
  rw [mergeValue]
  rfl

/-- A value that is no mapping replaces what stood in its place. -/
theorem mergeValue_of_none (hnew : new.entries? = none) (old : Value) :
    mergeValue new old = new := by
  cases old <;> simp [mergeValue, hnew]

/-- Only a mapping is not replaced. -/
theorem mergeValue_cases (old : Value) :
    (∃ base, old = .map base) ∨ ∀ new, mergeValue new old = new := by
  cases old with
  | map base => exact .inl ⟨base, rfl⟩
  | _ => exact .inr fun new => by simp [mergeValue]

/-- A value replaces one that is no mapping. -/
theorem mergeValue_of_not_map (hold : old.entries? = none) (new : Value) :
    mergeValue new old = new := by
  rcases mergeValue_cases old with ⟨base, rfl⟩ | hreplaced
  · cases hold
  · exact hreplaced new

/-- The keys of the lower mapping stay in their places. -/
theorem keys_mergeEntries (update base : List (Value × Value)) :
    (mergeEntries update base).map Prod.fst = base.map Prod.fst := by
  induction base with
  | nil => rw [mergeEntries]
  | cons entry base ih => rw [mergeEntries, List.map_cons, List.map_cons, ih]

/-- What the upper mapping leaves of an entry. -/
def laid (update : List (Value × Value)) (key old : Value) : Value :=
  match Assoc.get? key update with
  | some new => mergeValue new old
  | none => old

/-- The entries of the lower mapping, each with what is laid over it. -/
theorem mergeEntries_eq_map (update base : List (Value × Value)) :
    mergeEntries update base = base.map fun e => (e.1, laid update e.1 e.2) := by
  induction base with
  | nil => rw [mergeEntries]; rfl
  | cons entry base ih =>
    rw [mergeEntries, ih, List.map_cons]
    rfl

/-- What a key has among the entries of the lower mapping. -/
theorem get?_mergeEntries : Assoc.get? key (mergeEntries update base) =
    (Assoc.get? key base).map (laid update key) := by
  rw [mergeEntries_eq_map]
  induction base with
  | nil => rfl
  | cons entry base ih =>
    cases hkey : entry.1 == key with
    | true =>
      have hlaid : laid update entry.1 = laid update key := by
        funext old
        rw [laid, laid, Assoc.get?_congr hkey]
      simp [Assoc.get?, hkey, hlaid]
    | false => simpa [Assoc.get?, hkey] using ih

/-- What a key has after merging: what is laid over its value, or else what the upper mapping
has. -/
theorem get?_merge : Assoc.get? key (merge base update) =
    match Assoc.get? key base with
    | some old => some (laid update key old)
    | none => Assoc.get? key update := by
  rw [merge, Assoc.get?_append, get?_mergeEntries, additions, Assoc.get?_filter_absent,
    Assoc.contains]
  cases Assoc.get? key base with
  | none => simp
  | some old => simp

/-! ## Paths -/

/-- What is laid over a value, if there is one. -/
def laidOver (new : Value) : Option Value → Value
  | some old => mergeValue new old
  | none => new

/-- A value that is no mapping counts whatever it is laid over. -/
theorem laidOver_of_leaf (hnew : new.entries? = none) (old? : Option Value) :
    laidOver new old? = new := by
  cases old? with
  | none => rfl
  | some old => exact mergeValue_of_none hnew old

/-- A value counts when it is laid over no mapping. -/
theorem laidOver_of_no_mapping {old? : Option Value} (hold : old?.bind Value.entries? = none)
    (new : Value) : laidOver new old? = new := by
  cases old? with
  | none => rfl
  | some old => exact mergeValue_of_not_map hold new

/-- Where a path leads to a value of the upper one, that value is laid over what the path leads to
below. -/
theorem at?_mergeValue (hnew : new.IsNested) (hold : old.IsNested)
    (hpath : Value.at? path new = some v) :
    Value.at? path (mergeValue new old) = some (laidOver v (Value.at? path old)) := by
  induction path generalizing new old with
  | nil =>
    obtain rfl : new = v := Option.some.inj hpath
    rfl
  | cons key path ih =>
    cases hupdate : new.entries? with
    | none =>
      rw [Value.at?_cons_of_none hupdate] at hpath
      cases hpath
    | some update =>
      obtain rfl := hnew.eq_map hupdate
      rcases Option.bind_eq_some_iff.1 hpath with ⟨new', hget, hrest⟩
      have hgetNew : Assoc.get? key update = some new' := hget
      cases hbase : old.entries? with
      | none =>
        rw [mergeValue_of_not_map hbase, Value.at?_cons_of_none hbase, hpath]
        rfl
      | some base =>
        obtain rfl := hold.eq_map hbase
        rw [mergeValue_map, Value.at?_cons_map, Value.at?_cons_map, get?_merge]
        cases hgetOld : Assoc.get? key base with
        | none =>
          simp only [hgetNew, Option.bind_some, Option.bind_none]
          exact hrest
        | some old' =>
          simp only [laid, hgetNew, Option.bind_some]
          exact ih (hnew.of_get? hgetNew) (hold.of_get? hgetOld) hrest

/-- Where a path leaves the upper value, the lower one shows through when the path leaves it at a
mapping, and otherwise there is nothing. -/
theorem at?_mergeValue_of_none (hnew : new.IsNested) (hold : old.IsNested)
    (hpath : Value.at? path new = none) :
    Value.at? path (mergeValue new old) =
      if ((Value.at? (Value.reach path new) new).bind Value.entries?).isSome then
        Value.at? path old else none := by
  induction path generalizing new old with
  | nil => cases hpath
  | cons key path ih =>
    cases hupdate : new.entries? with
    | none =>
      rw [mergeValue_of_none hupdate, hpath]
      simp [Value.reach, hupdate, Value.at?]
    | some update =>
      obtain rfl := hnew.eq_map hupdate
      cases hbase : old.entries? with
      | none =>
        rw [mergeValue_of_not_map hbase, hpath, Value.at?_cons_of_none hbase, ite_self]
      | some base =>
        obtain rfl := hold.eq_map hbase
        rw [mergeValue_map, Value.at?_cons_map, Value.at?_cons_map, get?_merge]
        cases hgetNew : Assoc.get? key update with
        | none =>
          have hreach : Value.reach (key :: path) (.map update) = [] := by
            simp [Value.reach, hupdate, hgetNew]
          cases Assoc.get? key base with
          | none => simp
          | some old' => simp [laid, hgetNew, hreach, Value.at?, hupdate]
        | some new' =>
          have hreach : Value.reach (key :: path) (.map update) = key :: Value.reach path new' := by
            simp [Value.reach, hupdate, hgetNew]
          have hrest : Value.at? path new' = none := by
            rw [Value.at?_cons_map, hgetNew] at hpath
            exact hpath
          rw [hreach, Value.at?_cons_map, hgetNew]
          cases hgetOld : Assoc.get? key base with
          | none => simp [hrest]
          | some old' =>
            simp only [laid, hgetNew, Option.bind_some]
            exact ih (hnew.of_get? hgetNew) (hold.of_get? hgetOld) hrest

/-! ## Merging twice -/

/-- A nested value laid over itself is itself. -/
theorem mergeValue_self (hv : v.IsNested) : mergeValue v v = v := by
  induction hv with
  | leaf h => exact mergeValue_of_none h _
  | @mapping entries keys values ih =>
    have hnone : additions entries entries = [] := by
      refine List.filter_eq_nil_iff.2 fun e he => ?_
      simp [Assoc.contains, keys.get?_of_mem he]
    have hsame : mergeEntries entries entries = entries := by
      rw [mergeEntries_eq_map]
      refine (List.map_congr_left fun e he => ?_).trans (List.map_id entries)
      rw [laid, keys.get?_of_mem he, id]
      exact Prod.ext rfl (ih e he)
    rw [mergeValue_map, merge, hnone, hsame, List.append_nil]

/-- A nested value laid over a second time changes nothing. -/
theorem mergeValue_twice (hnew : new.IsNested) (old : Value) :
    mergeValue new (mergeValue new old) = mergeValue new old := by
  induction hnew generalizing old with
  | leaf h => rw [mergeValue_of_none h, mergeValue_of_none h]
  | @mapping update keys values ih =>
    rcases mergeValue_cases old with ⟨base, rfl⟩ | hreplaced
    · have hnone : additions (merge base update) update = [] := by
        refine List.filter_eq_nil_iff.2 fun e he => ?_
        rw [Assoc.contains, get?_merge]
        cases Assoc.get? e.1 base with
        | none => simp [keys.get?_of_mem he]
        | some old => simp
      have hold : mergeEntries update (mergeEntries update base) = mergeEntries update base := by
        rw [mergeEntries_eq_map, mergeEntries_eq_map, List.map_map]
        refine List.map_congr_left fun e _ => Prod.ext rfl ?_
        simp only [laid, Function.comp_apply]
        cases hget : Assoc.get? e.1 update with
        | none => rfl
        | some new =>
          rcases Assoc.exists_mem_of_get? hget with ⟨key, _, hmem⟩
          exact ih _ hmem e.2
      have hadded : mergeEntries update (additions base update) = additions base update := by
        rw [mergeEntries_eq_map]
        refine (List.map_congr_left fun e he => ?_).trans (List.map_id _)
        have hmem : e ∈ update := (List.mem_filter.1 he).1
        rw [laid, keys.get?_of_mem hmem, id]
        exact Prod.ext rfl (mergeValue_self (values e hmem))
      have happend : mergeEntries update (merge base update) = merge base update := by
        rw [merge, mergeEntries_eq_map, List.map_append, ← mergeEntries_eq_map,
          ← mergeEntries_eq_map, hold, hadded]
      rw [mergeValue_map, mergeValue_map, merge, hnone, happend, List.append_nil]
    · rw [hreplaced]
      exact mergeValue_self (.mapping keys values)

/-! ## Merging mappings -/

/-- The keys after merging are those of the lower mapping, and behind them the others of the upper
one. -/
theorem keys_merge (base update : List (Value × Value)) :
    (merge base update).map Prod.fst =
      base.map Prod.fst ++ (update.map Prod.fst).filter fun key => !Assoc.contains key base := by
  rw [merge, List.map_append, keys_mergeEntries, additions, List.filter_map]
  rfl

/-- Merging overrides path by path. A path along which the upper mapping has a value leads to that
value, unless both mappings have a mapping there, which are then merged, with the keys of the lower
one in front. A path that the upper mapping leaves leads to what the lower one has, if the last value
that the upper one has on the way is a mapping, and to nothing otherwise. Merging the upper mapping a
second time changes nothing. -/
theorem merge_overrides (hbase : (Value.map base).IsNested) (hupdate : (Value.map update).IsNested) :
    (∀ path,
      let upper := Value.at? path (.map update)
      let lower := Value.at? path (.map base)
      let merged := Value.at? path (.map (merge base update))
      (∀ v, upper = some v → v.entries? = none → merged = some v) ∧
      (∀ v update', upper = some v → v.entries? = some update' →
        (∀ w base', lower = some w → w.entries? = some base' →
          merged = some (.map (merge base' update')) ∧
          (merge base' update').map Prod.fst = base'.map Prod.fst ++
            (update'.map Prod.fst).filter fun key => !Assoc.contains key base') ∧
        (lower.bind Value.entries? = none → merged = some v)) ∧
      (upper = none → ∃ part, part <+: path ∧ (Value.at? part (.map update)).isSome ∧
        (∀ other, other <+: path → (Value.at? other (.map update)).isSome → other <+: part) ∧
        merged = if ((Value.at? part (.map update)).bind Value.entries?).isSome then lower
          else none)) ∧
    merge (merge base update) update = merge base update := by
  refine ⟨fun path => ?_, ?_⟩
  · intro upper lower merged
    have hmerged : merged = Value.at? path (mergeValue (.map update) (.map base)) := by
      rw [mergeValue_map]
    have hlaid : ∀ v, upper = some v → merged = some (laidOver v lower) := by
      intro v hv
      rw [hmerged]
      exact at?_mergeValue hupdate hbase hv
    refine ⟨fun v hv hleaf => ?_, fun v update' hv hentries => ⟨fun w base' hw hentries' => ?_,
      fun hnone => ?_⟩, fun hnone => ?_⟩
    · rw [hlaid v hv, laidOver_of_leaf hleaf]
    · obtain rfl := (hupdate.of_at? hv).eq_map hentries
      obtain rfl := (hbase.of_at? hw).eq_map hentries'
      rw [hlaid _ hv, hw]
      exact ⟨congrArg some mergeValue_map, keys_merge base' update'⟩
    · rw [hlaid v hv, laidOver_of_no_mapping hnone]
    · refine ⟨Value.reach path (.map update), Value.reach_isPrefix _ _, Value.isSome_at?_reach _ _,
        fun other hother hsome => Value.isPrefix_reach hother hsome, ?_⟩
      rw [hmerged]
      exact at?_mergeValue_of_none hupdate hbase hnone
  · have htwice := mergeValue_twice hupdate (.map base)
    rw [mergeValue_map, mergeValue_map] at htwice
    exact Value.map.inj htwice

/-- A key that is a truth value overrides the same number, which stays as it was written; below it
the two mappings are merged. A mapping replaces a text, and a number a mapping. -/
theorem merge_overrides_numbers :
    let base : List (Value × Value) :=
      [(.int 1, .map [(.str ['a'], .int 0), (.str ['b'], .int 1)]), (.str ['x'], .str ['t']),
        (.str ['y'], .map [(.null, .null)])]
    let update : List (Value × Value) :=
      [(.bool true, .map [(.str ['c'], .int 3), (.str ['b'], .int 2)]), (.str ['y'], .int 5),
        (.str ['x'], .map [(.int 0, .null)])]
    let merged := Value.map (merge base update)
    (Value.map base).IsNested ∧ (Value.map update).IsNested ∧
        Value.at? [.int 1] merged =
          some (.map [(.str ['a'], .int 0), (.str ['b'], .int 2), (.str ['c'], .int 3)]) ∧
        Value.at? [.str ['y']] merged = some (.int 5) ∧
        Value.at? [.str ['x']] merged = some (.map [(.int 0, .null)]) ∧
        merge (merge base update) update = merge base update := by
  intro base update merged
  have hflat : ∀ {entries : List (Value × Value)}, Value.HasKeys entries →
      (∀ e ∈ entries, e.2.entries? = none) → (Value.map entries).IsNested :=
    fun keys values => .mapping keys fun e he => .leaf (values e he)
  have hbase : (Value.map base).IsNested := by
    refine .mapping ⟨by decide, by decide⟩ ?_
    simp only [base, List.forall_mem_cons]
    exact ⟨hflat ⟨by decide, by decide⟩ (by simp [Value.entries?, Value.opened]), .leaf rfl,
      hflat ⟨by decide, by decide⟩ (by simp [Value.entries?, Value.opened]), by simp⟩
  have hupdate : (Value.map update).IsNested := by
    refine .mapping ⟨by decide, by decide⟩ ?_
    simp only [update, List.forall_mem_cons]
    exact ⟨hflat ⟨by decide, by decide⟩ (by simp [Value.entries?, Value.opened]), .leaf rfl,
      hflat ⟨by decide, by decide⟩ (by simp [Value.entries?, Value.opened]), by simp⟩
  have hpaths := (merge_overrides hbase hupdate).1
  refine ⟨hbase, hupdate, ?_, ?_, ?_, (merge_overrides hbase hupdate).2⟩
  · exact (((hpaths [.int 1]).2.1 _ _ rfl rfl).1 _ _ rfl rfl).1
  · exact (hpaths [.str ['y']]).1 _ rfl rfl
  · exact ((hpaths [.str ['x']]).2.1 _ _ rfl rfl).2 rfl

end Config
end DocMarkup
