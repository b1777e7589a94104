import KotlinSource.Lexical.NamePool
import Mathlib.Data.List.Induction
import Mathlib.Data.List.Nodup
import Mathlib.Data.List.Perm.Subperm

/-!
# Names that pools hand out

A pool starts with the keywords in use and can be cloned at any time; a clone goes on from the names
that had been handed out before.  This file follows a whole family of pools, all of which come from
one new pool, over any sequence of allocations and clones.  Beside every pool stands the history of
its names, so that what the pool answers can be said in terms of what it was asked before.

That a free name is always found rests on counting: of the candidates with no underscore, one, two
and so on at their ends no two are the same, so that the names in use cannot be all of them.

## Main definitions

* `NamePool.IsClosest`: the name that a suggestion should get.
* `NamePool.Traced`: a pool with the names handed out so far.
* `NamePool.Op`, `NamePool.step`, `NamePool.run`: families of pools.
* `NamePool.Traced.Sound`: a pool that holds what its history says.

## Main results

* `NamePool.exists_fresh_eq`: a free name is found, with as few underscores as possible.
* `NamePool.sound_step`, `NamePool.sound_of_mem_run`: every pool of a family keeps to its history.
* `NamePool.answers_of_run`: what a pool answers after any sequence of operations.
-/

namespace KotlinSource

/-! ### Identifiers -/

theorem continuesIdentifier_underscore : continuesIdentifier '_' = true := by
  simp [continuesIdentifier]

theorem isIdentifierChars_sanitizedChars (s : List Char) :
    isIdentifierChars (sanitizedChars s) = true := by
  have hbody : ∀ c ∈ s.map fun c => if continuesIdentifier c then c else '_',
      continuesIdentifier c = true := by
    intro c hc
    obtain ⟨d, -, rfl⟩ := List.mem_map.1 hc
    split
    · assumption
    · exact continuesIdentifier_underscore
  cases s with
  | nil => simp [sanitizedChars, isIdentifierChars, startsIdentifier]
  | cons c rest =>
    by_cases hc : startsIdentifier c = true
    · have hfirst : continuesIdentifier c = true := continuesIdentifier_of_starts hc
      rw [List.map_cons, if_pos hfirst] at hbody
      simpa [sanitizedChars, hc, hfirst, isIdentifierChars, List.all_eq_true] using
        fun d hd => hbody _ (List.mem_cons_of_mem c (List.mem_map_of_mem hd))
    · rw [sanitizedChars, if_neg hc, isIdentifierChars, List.all_eq_true.2 hbody]
      simp [startsIdentifier]

/-- Every text has an identifier that is closest to it. -/
theorem isIdentifier_sanitized (suggestion : String) : isIdentifier (sanitized suggestion) = true := by
  rw [isIdentifier, sanitized, String.toList_ofList]
  exact isIdentifierChars_sanitizedChars _

namespace NamePool

/-! ### Underscores -/

theorem isIdentifier_underscored {name : String} (h : isIdentifier name = true) (count : Nat) :
    isIdentifier (underscored name count) = true := by
  rw [isIdentifier] at h ⊢
  rw [underscored, String.toList_ofList]
  cases hchars : name.toList with
  | nil => simp [hchars, isIdentifierChars] at h
  | cons c rest =>
    rw [hchars, isIdentifierChars, Bool.and_eq_true] at h
    simpa [isIdentifierChars, h.1, continuesIdentifier_underscore] using List.all_eq_true.1 h.2

theorem underscored_injective (name : String) : Function.Injective (underscored name) := by
  intro i j h
  have hlength := congrArg (fun s : String => s.toList.length) h
  simpa [underscored] using hlength

/-- Of the candidates for a name, which are more than the names in use, one is free. -/
theorem exists_contains_eq_false (pool : NamePool) (name : String) :
    ∃ count < pool.taken.length + 1, pool.contains (underscored name count) = false := by
  by_contra! hall
  have hsubset : (List.range (pool.taken.length + 1)).map (underscored name) ⊆ pool.taken := by
    intro candidate hcandidate
    obtain ⟨count, hcount, rfl⟩ := List.mem_map.1 hcandidate
    simpa [contains] using hall count (List.mem_range.1 hcount)
  have hnodup : ((List.range (pool.taken.length + 1)).map (underscored name)).Nodup :=
    List.nodup_range.map (underscored_injective name)
  have hlength := (hnodup.subperm hsubset).length_le
  rw [List.length_map, List.length_range] at hlength
  omega

/-- The free name closest to a name has as few underscores at its end as make it free. -/
theorem exists_fresh_eq (pool : NamePool) (name : String) :
    ∃ count, pool.fresh name = underscored name count ∧
      pool.contains (underscored name count) = false ∧
      ∀ fewer < count, pool.contains (underscored name fewer) = true := by
  obtain ⟨count, hbound, hfree⟩ := pool.exists_contains_eq_false name
  rw [fresh, List.find?_map]
  cases hfind : (List.range (pool.taken.length + 1)).find?
      ((fun candidate => !pool.contains candidate) ∘ underscored name) with
  | none =>
    have hnone := List.find?_eq_none.1 hfind count (List.mem_range.2 hbound)
    simp [hfree] at hnone
  | some least =>
    obtain ⟨hleast, -, hfewer⟩ := List.find?_range_eq_some.1 hfind
    exact ⟨least, rfl, by simpa using hleast, fun fewer h => by simpa using hfewer fewer h⟩

/-! ### Histories -/

/-- A name that a pool has handed out. -/
structure Allocation where
  suggestion : String
  tag : String
  name : String
  deriving DecidableEq, Repr

/-- A pool with the names that it has handed out; if it is a clone, they go on from those of the
pool from which it was cloned.  The last name stands first. -/
structure Traced where
  pool : NamePool
  given : List Allocation
  deriving DecidableEq, Repr

/-- The name that a suggestion should get beside the names in `used`: the identifier closest to it,
with as few underscores at its end as make it neither a keyword nor a name in use. -/
structure IsClosest (suggestion : String) (used : List String) (name : String) : Prop where
  identifier : isIdentifier name = true
  notKeyword : isKeyword name = false
  notMem : name ∉ used
  least : ∃ count, name = underscored (sanitized suggestion) count ∧
    ∀ fewer < count, underscored (sanitized suggestion) fewer ∈ used ∨
      isKeyword (underscored (sanitized suggestion) fewer) = true

namespace Traced

/-- The names handed out. -/
def names (t : Traced) : List String := t.given.map Allocation.name

/-- The tags of the names handed out. -/
def tags (t : Traced) : List String := t.given.map Allocation.tag

/-- The pool behind an attempt to take a name. -/
def allocate (t : Traced) (suggestion tag : String) : Traced :=
  match t.pool.allocate suggestion tag with
  | .ok (name, pool) => ⟨pool, ⟨suggestion, tag, name⟩ :: t.given⟩
  | .error _ => t

/-- The pool holds what its history says, and no tag has two names. -/
structure Sound (t : Traced) : Prop where
  taken_eq : t.pool.taken = t.names ++ keywords
  tags_eq : t.pool.tags = t.given.map fun a => (a.tag, a.name)
  nodup_tags : t.tags.Nodup

variable {t : Traced}

theorem Sound.contains_iff (h : t.Sound) {name : String} :
    t.pool.contains name = true ↔ name ∈ t.names ∨ isKeyword name = true := by
  rw [NamePool.contains, List.contains_iff_mem, h.taken_eq, List.mem_append, isKeyword_iff]

theorem Sound.lookup_eq_none_iff (h : t.Sound) {tag : String} :
    t.pool.tags.lookup tag = none ↔ tag ∉ t.tags := by
  rw [h.tags_eq, List.lookup_eq_none_iff, List.forall_mem_map, tags, List.mem_map, not_exists]
  exact forall_congr' fun a => by rw [not_and, bne_iff_ne, ne_comm]

theorem Sound.lookup_eq_some (h : t.Sound) {a : Allocation} (ha : a ∈ t.given) :
    t.pool.tags.lookup a.tag = some a.name := by
  have hnodup := h.nodup_tags
  obtain ⟨later, earlier, hgiven⟩ := List.append_of_mem ha
  rw [tags, hgiven, List.map_append, List.map_cons, List.nodup_append] at hnodup
  rw [h.tags_eq, hgiven, List.map_append, List.map_cons, List.lookup_eq_some_iff]
  refine ⟨_, _, rfl, fun p hp => ?_⟩
  obtain ⟨b, hb, rfl⟩ := List.mem_map.1 hp
  have hne := hnodup.2.2 b.tag (List.mem_map_of_mem hb) a.tag List.mem_cons_self
  simpa using hne.symm

/-- A tag that has a name gets no other one. -/
theorem Sound.allocate_of_mem (h : t.Sound) (suggestion : String) {tag : String}
    (htag : tag ∈ t.tags) :
    t.pool.allocate suggestion tag = .error (.duplicateTag tag) := by
  obtain ⟨a, ha, rfl⟩ := List.mem_map.1 htag
  rw [NamePool.allocate, h.lookup_eq_some ha]

/-- A new tag gets the name that the suggestion should get. -/
theorem Sound.exists_allocate_eq (h : t.Sound) (suggestion : String) {tag : String}
    (htag : tag ∉ t.tags) :
    ∃ name, IsClosest suggestion t.names name ∧ t.pool.allocate suggestion tag =
      .ok (name, ⟨name :: t.pool.taken, (tag, name) :: t.pool.tags⟩) := by
  obtain ⟨count, hfresh, hfree, hfewer⟩ := t.pool.exists_fresh_eq (sanitized suggestion)
  have hunused := mt h.contains_iff.2 (Bool.eq_false_iff.1 hfree)
  rw [not_or] at hunused
  refine ⟨underscored (sanitized suggestion) count, ?_, ?_⟩
  · exact ⟨isIdentifier_underscored (isIdentifier_sanitized suggestion) count,
      Bool.eq_false_iff.2 hunused.2, hunused.1, count, rfl,
      fun fewer hlt => h.contains_iff.1 (hfewer fewer hlt)⟩
  · rw [NamePool.allocate, h.lookup_eq_none_iff.2 htag]
    simp only [hfresh]

theorem Sound.allocate (h : t.Sound) (suggestion tag : String) :
    (t.allocate suggestion tag).Sound := by
  by_cases htag : tag ∈ t.tags
  · rw [Traced.allocate, h.allocate_of_mem suggestion htag]
    exact h
  · obtain ⟨name, -, hname⟩ := h.exists_allocate_eq suggestion htag
    rw [Traced.allocate, hname]
    exact ⟨by simp [names, h.taken_eq], by simp [h.tags_eq], List.nodup_cons.2 ⟨htag, h.nodup_tags⟩⟩

/-- An attempt to take a name adds to the history at most. -/
theorem suffix_given_allocate (t : Traced) (suggestion tag : String) :
    t.given <:+ (t.allocate suggestion tag).given := by
  rw [Traced.allocate]
  split
  · exact List.suffix_cons _ _
  · exact List.suffix_rfl

end Traced

/-! ### Families of pools -/

/-- An operation on a family of pools, which are numbered in the order in which they come up. -/
inductive Op where
  /-- Take a name close to a suggestion from a pool, and remember it under a tag. -/
  | allocate (pool : Nat) (suggestion tag : String)
  /-- Make a clone of a pool. -/
  | clone (pool : Nat)
  deriving DecidableEq, Repr

/-- The pool from which an operation takes a name. -/
def Op.taker? : Op → Option Nat
  | .allocate pool _ _ => some pool
  | .clone _ => none

/-- The family behind an operation.  Nothing happens for a pool that there is not. -/
def step (family : List Traced) : Op → List Traced
  | .allocate pool suggestion tag => family.modify pool fun t => t.allocate suggestion tag
  | .clone pool => family ++ family[pool]?.toList

/-- The family that comes from one new pool. -/
def run (ops : List Op) : List Traced := ops.foldl step [⟨empty, []⟩]

theorem getElem?_step_allocate (family : List Traced) (pool : Nat) (suggestion tag : String)
    (i : Nat) :
    (step family (.allocate pool suggestion tag))[i]? =
      if pool = i then family[i]?.map fun t => t.allocate suggestion tag else family[i]? := by
  rw [step, List.getElem?_modify]
  split <;> simp

/-- A clone comes behind all pools that are there. -/
theorem getElem?_step_clone {family : List Traced} {i : Nat} {t : Traced} (h : family[i]? = some t)
    (pool : Nat) : (step family (.clone pool))[i]? = some t := by
  rw [step, List.getElem?_append_left (List.getElem?_eq_some_iff.1 h).1, h]

theorem run_append_singleton (ops : List Op) (op : Op) : run (ops ++ [op]) = step (run ops) op := by
  simp [run]

/-- Every operation keeps the pools to their histories. -/
theorem sound_step {family : List Traced} (h : ∀ t ∈ family, t.Sound) (op : Op) :
    ∀ t ∈ step family op, t.Sound := by
  intro t ht
  cases op with
  | allocate pool suggestion tag =>
    obtain ⟨i, hi⟩ := List.mem_iff_getElem?.1 ht
    rw [getElem?_step_allocate] at hi
    split at hi
    · obtain ⟨t', ht', rfl⟩ := Option.map_eq_some_iff.1 hi
      exact (h t' (List.mem_of_getElem? ht')).allocate suggestion tag
    · exact h t (List.mem_of_getElem? hi)
  | clone pool =>
    rcases List.mem_append.1 ht with ht | ht
    · exact h t ht
    · exact h t (List.mem_of_getElem? (Option.mem_toList.1 ht))

theorem sound_of_mem_run (ops : List Op) : ∀ t ∈ run ops, t.Sound := by
  induction ops using List.reverseRecOn with
  | nil =>
    intro t ht
    obtain rfl := List.mem_singleton.1 ht
    exact ⟨rfl, rfl, List.nodup_nil⟩
  | append_singleton ops op ih =>
    rw [run_append_singleton]
    exact sound_step ih op

/-- What a pool has handed out stays in its history. -/
theorem exists_suffix_step {family : List Traced} {i : Nat} {t : Traced}
    (h : family[i]? = some t) (op : Op) :
    ∃ t', (step family op)[i]? = some t' ∧ t.given <:+ t'.given := by
  cases op with
  | allocate pool suggestion tag =>
    rw [getElem?_step_allocate, h]
    split
    · exact ⟨_, rfl, t.suffix_given_allocate suggestion tag⟩
    · exact ⟨t, rfl, List.suffix_rfl⟩
  | clone pool => exact ⟨t, getElem?_step_clone h pool, List.suffix_rfl⟩

theorem exists_suffix_run {ops : List Op} {i : Nat} {t : Traced} (h : (run ops)[i]? = some t)
    (more : List Op) : ∃ t', (run (ops ++ more))[i]? = some t' ∧ t.given <:+ t'.given := by
  induction more using List.reverseRecOn with
  | nil => exact ⟨t, by rwa [List.append_nil], List.suffix_rfl⟩
  | append_singleton more op ih =>
    obtain ⟨t', ht', hsuffix⟩ := ih
    obtain ⟨t'', ht'', hsuffix'⟩ := exists_suffix_step ht' op
    rw [← List.append_assoc, run_append_singleton]
    exact ⟨t'', ht'', hsuffix.trans hsuffix'⟩

/-- An operation that takes no name from a pool leaves it as it is. -/
theorem getElem?_step {family : List Traced} {i : Nat} {t : Traced} (h : family[i]? = some t)
    {op : Op} (hop : op.taker? ≠ some i) : (step family op)[i]? = some t := by
  cases op with
  | allocate pool suggestion tag =>
    have hne : pool ≠ i := fun e => hop (congrArg some e)
    rw [getElem?_step_allocate, if_neg hne, h]
  | clone pool => exact getElem?_step_clone h pool

theorem getElem?_run {ops : List Op} {i : Nat} {t : Traced} (h : (run ops)[i]? = some t)
    {more : List Op} (hmore : ∀ op ∈ more, op.taker? ≠ some i) :
    (run (ops ++ more))[i]? = some t := by
  induction more using List.reverseRecOn with
  | nil => rwa [List.append_nil]
  | append_singleton more op ih =>
    obtain ⟨hmore, hop⟩ := List.forall_mem_append.1 hmore
    rw [← List.append_assoc, run_append_singleton]
    exact getElem?_step (ih hmore) (hop op (List.mem_singleton_self op))

/-! ### What pools answer -/

/-- **Names handed out are apart, and stay.**  After any sequence of allocations and clones that
starts from one new pool, each pool of the family refuses exactly the tags that it has a name for,
and stays as it is then; for any other tag it hands out an identifier that is neither a keyword nor
any name of its history, which goes back beyond the points at which it and its ancestors were
cloned: the identifier closest to the suggestion, with as few underscores as possible.  What is in
use are the keywords and the names of the history.  Whatever happens later, a tag keeps the name it
got; a clone starts as the pool that it comes from; and what happens to other pools, be they its
clones or not, leaves a pool as it is. -/
theorem answers_of_run (ops : List Op) {i : Nat} {t : Traced} (h : (run ops)[i]? = some t) :
    (∀ suggestion, ∀ tag ∈ t.tags,
      t.pool.allocate suggestion tag = .error (.duplicateTag tag) ∧
        run (ops ++ [.allocate i suggestion tag]) = run ops) ∧
      (∀ suggestion, ∀ tag ∉ t.tags, ∃ name pool,
        t.pool.allocate suggestion tag = .ok (name, pool) ∧ IsClosest suggestion t.names name ∧
          (run (ops ++ [.allocate i suggestion tag]))[i]? =
            some ⟨pool, ⟨suggestion, tag, name⟩ :: t.given⟩) ∧
      (∀ name, t.pool.contains name = true ↔ name ∈ t.names ∨ isKeyword name = true) ∧
      (∀ tag ∉ t.tags, t.pool.lookup tag = .error (.unknownTag tag)) ∧
      (∀ a ∈ t.given, ∀ more, ∃ t',
        (run (ops ++ more))[i]? = some t' ∧ t'.pool.lookup a.tag = .ok a.name) ∧
      run (ops ++ [.clone i]) = run ops ++ [t] ∧
      ∀ more : List Op, (∀ op ∈ more, op.taker? ≠ some i) → (run (ops ++ more))[i]? = some t := by
  have hsound := sound_of_mem_run ops t (List.mem_of_getElem? h)
  refine ⟨fun suggestion tag htag => ?_, fun suggestion tag htag => ?_, fun name =>
    hsound.contains_iff, fun tag htag => ?_, fun a ha more => ?_, ?_, fun more => getElem?_run h⟩
  · have herror := hsound.allocate_of_mem suggestion htag
    refine ⟨herror, ?_⟩
    have hsame : t.allocate suggestion tag = t := by rw [Traced.allocate, herror]
    rw [run_append_singleton]
    refine List.ext_getElem? fun j => ?_
    rw [getElem?_step_allocate]
    split
    · next hj => rw [← hj, h, Option.map_some, hsame]
    · rfl
  · obtain ⟨name, hclosest, hname⟩ := hsound.exists_allocate_eq suggestion htag
    refine ⟨name, _, hname, hclosest, ?_⟩
    rw [run_append_singleton, getElem?_step_allocate, if_pos rfl, h, Option.map_some,
      Traced.allocate, hname]
  · rw [lookup, hsound.lookup_eq_none_iff.2 htag]
  · obtain ⟨t', ht', hsuffix⟩ := exists_suffix_run h more
    have hsound' := sound_of_mem_run _ t' (List.mem_of_getElem? ht')
    exact ⟨t', ht', by rw [lookup, hsound'.lookup_eq_some (hsuffix.subset ha)]⟩
  · rw [run_append_singleton, step, h]
    rfl

/-- A pool hands out a name and is cloned; then the clone and the pool hand out another one each. -/
def itemOps : List Op :=
  [.allocate 0 "item" "first", .clone 0, .allocate 1 "item" "second", .allocate 0 "class" "keyword"]

/-- The clone behind these operations. -/
def itemClone : Traced where
  pool := ⟨"item_" :: "item" :: keywords, [("second", "item_"), ("first", "item")]⟩
  given := [⟨"item", "second", "item_"⟩, ⟨"item", "first", "item"⟩]

/-- The clone refuses a tag that it has from its origin, goes on from both of its names, knows
nothing of what its origin did later, and keeps to the first name. -/
theorem answers_of_run_item :
    (run itemOps)[1]? = some itemClone ∧
      itemClone.pool.allocate "other" "first" = .error (.duplicateTag "first") ∧
      (∃ name pool, itemClone.pool.allocate "item" "third" = .ok (name, pool) ∧ name = "item__" ∧
        IsClosest "item" itemClone.names name) ∧
      itemClone.pool.lookup "keyword" = .error (.unknownTag "keyword") ∧
      ∀ more, ∃ t', (run (itemOps ++ more))[1]? = some t' ∧ t'.pool.lookup "first" = .ok "item" := by
  have hclone : (run itemOps)[1]? = some itemClone := by decide +kernel
  obtain ⟨hrefused, hgot, -, hunknown, hkept, -, -⟩ := answers_of_run itemOps hclone
  obtain ⟨name, pool, hname, hclosest, -⟩ := hgot "item" "third" (by decide)
  have hfresh : itemClone.pool.fresh (sanitized "item") = "item__" := by decide +kernel
  have hitem : name = "item__" := by
    rw [← hfresh]
    cases hname
    rfl
  exact ⟨hclone, (hrefused "other" "first" (by decide)).1, ⟨name, pool, hname, hitem, hclosest⟩,
    hunknown "keyword" (by decide), hkept ⟨"item", "first", "item"⟩ (by decide)⟩

end NamePool

end KotlinSource
