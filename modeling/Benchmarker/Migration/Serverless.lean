import Mathlib.Data.List.Nodup
import Mathlib.Data.List.Perm.Subperm
import Benchmarker.Async.Alone
import Benchmarker.Js.Map

/-!
# The migration to another cluster

`migrate-es-to-serverless.ts`: the documents of every listed index of the source cluster are copied page by page, and at
last the counts of the two clusters are compared. Nobody else writes meanwhile. What a document contains is arbitrary; the
clients are given, and the log lines are left out.

* `copyPages`, `copyIndex`, `copyAll`, `verify`, `migrate`: the code.
* `World`, `Serves`: the clusters, and how they answer. A request may be rejected, and a bulk request may be carried out
  in part.
* `get_assign_of_subset`: what copying some of the documents of an index does.
* `Migrated`, **`migrate_exact`**: what a migration does, however it ends.
-/

namespace Benchmarker.Migration

open Js Async Async.Prog

/-! ## The code -/

structure CatIndexRow where
  index : Option String
  docs : ℕ
  deriving DecidableEq

/-- The answer to a search or a scroll. -/
structure Page (α : Type) where
  hits : JsMap String α
  scrollId : Option ℕ

/-- `tooManyPages` is no error of the source: it ends a loop that the model bounds. -/
inductive MigrationError
  | rejected (message : String)
  | bulkErrors (index : String)
  | tooManyPages
  deriving DecidableEq

inductive MigrationOp (α : Type)
  | catIndices
  | createIndices
  | search (index : String)
  | scroll (scrollId : ℕ)
  | bulk (index : String) (docs : JsMap String α)
  | clearScroll (scrollId : ℕ)
  | refresh (index : String)
  | counts (index : String)

/-- `createIndices` is `store.initialize()`, `counts` are the two counts that are in flight together. A bulk request answers whether some of its operations have failed. -/
@[reducible] def MigrationVal {α : Type} : MigrationOp α → Type
  | .catIndices => List CatIndexRow
  | .search _ | .scroll _ => Page α
  | .bulk _ _ => Bool
  | .counts _ => ℕ × ℕ
  | .createIndices | .clearScroll _ | .refresh _ => Unit

@[reducible] def MigrationAns {α : Type} (o : MigrationOp α) : Type := Except MigrationError (MigrationVal o)

abbrev MigrationJs (α β : Type) : Type := ExceptT MigrationError (Prog (MigrationAns (α := α))) β

variable {α : Type}

def send (o : MigrationOp α) : MigrationJs α (MigrationVal o) := ExceptT.mk (request o)

/-- The loop of `copyIndex`, for so many pages at most. -/
def copyPages (index : String) : ℕ → Page α → ℕ → MigrationJs α (ℕ × Option ℕ)
  | _, ⟨[], scrollId⟩, copied => return (copied, scrollId)
  | 0, _, _ => throw .tooManyPages
  | pages + 1, ⟨hits, scrollId⟩, copied => do
    let errors ← send (.bulk index hits)
    if errors then throw (.bulkErrors index)
    else match scrollId with
      | none => return (copied + hits.length, none)
      | some scrollId => do
        let next ← send (.scroll scrollId)
        copyPages index pages next (copied + hits.length)

def copyIndex (pages : ℕ) (index : String) : MigrationJs α ℕ := do
  let first ← send (.search index)
  let (copied, scrollId) ← copyPages index pages first 0
  match scrollId with
  | none => return copied
  | some scrollId => do
    let _ ← attempt (send (.clearScroll scrollId))
    return copied

def copyAll (pages : ℕ) : List String → ℕ → MigrationJs α ℕ
  | [], total => return total
  | index :: indices, total => do
    let copied ← copyIndex pages index
    let _ ← attempt (send (.refresh index))
    copyAll pages indices (total + copied)

/-- The loop that compares the counts: whether some differ. -/
def verify : List String → Bool → MigrationJs α Bool
  | [], mismatch => return mismatch
  | index :: indices, mismatch => do
    let (srcCount, dstCount) ← send (.counts index)
    verify indices (mismatch || srcCount != dstCount)

def nonEmpty (rows : List CatIndexRow) : List String :=
  rows.filterMap fun r => r.index.filter fun index => index ≠ "" && !index.startsWith "." && 0 < r.docs

def copyAndVerify (pages : ℕ) (indices : List String) : MigrationJs α Bool := do
  send .createIndices
  let _ ← copyAll pages indices 0
  verify indices false

/-- `main`, which returns whether the counts mismatch. -/
def migrate (pages : ℕ) (dryRun : Bool) : MigrationJs α Bool := do
  let rows ← send .catIndices
  if nonEmpty rows = [] then return false
  else if dryRun then return false
  else copyAndVerify pages (nonEmpty rows)

/-- `process.exitCode`. -/
def exitCode : Except MigrationError Bool → ℕ
  | .ok false => 0
  | .ok true | .error _ => 1

/-! ## The clusters -/

/-- The documents of the indices by id, and what a scroll has still to return. A count of a stale index may be of an
earlier time. -/
structure World (α : Type) where
  source : String → JsMap String α
  dest : String → JsMap String α
  scrolls : ℕ → JsMap String α := fun _ => []
  stale : String → Bool := fun _ => false

/-- Documents are indexed. -/
def World.put (w : World α) (index : String) (docs : JsMap String α) : World α :=
  { w with dest := Function.update w.dest index ((w.dest index).assign docs), stale := Function.update w.stale index true }

/-- A page is returned, and `rest` is what is left. -/
def World.turn (w : World α) (scrollId : ℕ) (rest : JsMap String α) : World α :=
  { w with scrolls := Function.update w.scrolls scrollId rest }

/-- How the clusters answer. Only the last page is empty. -/
inductive Serves : (o : MigrationOp α) → World α → MigrationAns o → World α → Prop
  | rejected {o : MigrationOp α} {w : World α} (e : MigrationError) (he : e ≠ .tooManyPages) : Serves o w (.error e) w
  | catIndices {w : World α} (rows : List CatIndexRow) : Serves .catIndices w (.ok rows) w
  | createIndices {w : World α} : Serves .createIndices w (.ok ()) w
  | search {w : World α} {index : String} (scrollId : ℕ) (hits rest : JsMap String α)
      (hall : hits ++ rest = w.source index) (hlast : hits = [] → rest = []) :
      Serves (.search index) w (.ok ⟨hits, some scrollId⟩) (w.turn scrollId rest)
  | scroll {w : World α} {scrollId : ℕ} (next : ℕ) (hits rest : JsMap String α)
      (hall : hits ++ rest = w.scrolls scrollId) (hlast : hits = [] → rest = []) :
      Serves (.scroll scrollId) w (.ok ⟨hits, some next⟩) (w.turn next rest)
  | bulk {w : World α} {index : String} {docs : JsMap String α} (applied : JsMap String α) (h : applied.Sublist docs) :
      Serves (.bulk index docs) w (.ok (applied.length != docs.length)) (w.put index applied)
  | bulkLost {w : World α} {index : String} {docs : JsMap String α} (applied : JsMap String α) (h : applied.Sublist docs)
      (e : MigrationError) (he : e ≠ .tooManyPages) : Serves (.bulk index docs) w (.error e) (w.put index applied)
  | clearScroll {w : World α} {scrollId : ℕ} : Serves (.clearScroll scrollId) w (.ok ()) (w.turn scrollId [])
  | refresh {w : World α} {index : String} :
      Serves (.refresh index) w (.ok ()) { w with stale := Function.update w.stale index false }
  | counts {w : World α} {index : String} (dstCount : ℕ) (h : w.stale index = false → dstCount = (w.dest index).size) :
      Serves (.counts index) w (.ok ((w.source index).size, dstCount)) w

/-- Every id stands once in an index. -/
structure World.Wf (w : World α) : Prop where
  source : ∀ index, (w.source index).keys.Nodup
  dest : ∀ index, (w.dest index).keys.Nodup

section Copying

variable {w w' w'' : World α} {index id : String} {indices : List String} {past : List (Event (MigrationAns (α := α)) (World α))}
variable {m docs part hits rest : JsMap String α} {d : α} {pages copied : ℕ}

/-! ## Copying documents -/

@[simp] theorem dest_put_self : (w.put index part).dest index = (w.dest index).assign part := Function.update_self ..

theorem dest_put_of_ne {index' : String} (h : index' ≠ index) : (w.put index part).dest index' = w.dest index' :=
  Function.update_of_ne h ..

theorem mem_keys_cons (kv : String × α) : id ∈ JsMap.keys (kv :: part) ↔ id = kv.1 ∨ id ∈ JsMap.keys part :=
  List.mem_cons

/-- **Copying some of the documents** gives their ids the documents, and leaves the other ids alone. -/
theorem get_assign_of_subset (hdocs : docs.keys.Nodup) (hpart : part ⊆ docs) :
    (m.assign part).get id = if id ∈ part.keys then docs.get id else m.get id := by
  induction part generalizing m with
  | nil => rfl
  | cons kv part ih =>
    obtain ⟨hkv, hpart⟩ := List.cons_subset.mp hpart
    show ((m.set kv.1 kv.2).assign part).get id = _
    rw [ih hpart, JsMap.get_set]
    by_cases hid : id ∈ JsMap.keys part
    · rw [if_pos hid, if_pos ((mem_keys_cons kv).mpr (.inr hid))]
    · rw [if_neg hid]
      by_cases hkey : kv.1 = id
      · rw [if_pos hkey, if_pos ((mem_keys_cons kv).mpr (.inl hkey.symm)), ← hkey]
        exact ((JsMap.get_eq_some_iff hdocs).mpr hkv).symm
      · rw [if_neg hkey, if_neg fun hmem => ((mem_keys_cons kv).mp hmem).elim (fun heq => hkey heq.symm) hid]

/-- Documents of the source are copied in these indices, and nothing else is written. -/
structure Copies (indices : List String) (w w' : World α) : Prop where
  source : w'.source = w.source
  nodup : ∀ index, (w'.dest index).keys.Nodup
  only : ∀ index id, (w'.dest index).get id = (w.dest index).get id ∨
    (w'.dest index).get id = (w.source index).get id ∧ ((w.source index).get id).isSome = true
  outside : ∀ index, index ∉ indices → w'.dest index = w.dest index

theorem Copies.wf (h : Copies indices w w') (hw : w.Wf) : w'.Wf := ⟨fun index => h.source ▸ hw.source index, h.nodup⟩

theorem Copies.refl (hw : w.Wf) : Copies indices w w := ⟨rfl, hw.dest, fun _ _ => .inl rfl, fun _ _ => rfl⟩

theorem Copies.trans (h : Copies indices w w') (h' : Copies indices w' w'') : Copies indices w w'' where
  source := h'.source.trans h.source
  nodup := h'.nodup
  only index id := by
    rcases h'.only index id with hsame | hcopied
    · rw [hsame]
      exact h.only index id
    · rw [h.source] at hcopied
      exact .inr hcopied
  outside index hout := (h'.outside index hout).trans (h.outside index hout)

theorem Copies.mono {indices' : List String} (h : Copies indices w w') (hsub : indices ⊆ indices') : Copies indices' w w' :=
  ⟨h.source, h.nodup, h.only, fun index hout => h.outside index fun hin => hout (hsub hin)⟩

/-- What has been copied stays. -/
theorem Copies.keeps (h : Copies indices w w') (hhas : (w.dest index).get id = (w.source index).get id) :
    (w'.dest index).get id = (w.source index).get id := by
  rcases h.only index id with hsame | hcopied
  · rw [hsame, hhas]
  · exact hcopied.1

theorem get_put (hw : w.Wf) (hpart : part ⊆ w.source index) :
    ((w.put index part).dest index).get id = if id ∈ part.keys then (w.source index).get id else (w.dest index).get id := by
  rw [dest_put_self]
  exact get_assign_of_subset (hw.source index) hpart

theorem copies_put (hw : w.Wf) (hpart : part ⊆ w.source index) : Copies [index] w (w.put index part) := by
  refine ⟨rfl, fun index' => ?_, fun index' id => ?_, fun index' hout => ?_⟩
  · by_cases hindex : index' = index
    · subst hindex
      rw [dest_put_self]
      exact JsMap.nodup_assign (hw.dest index')
    · rw [dest_put_of_ne hindex]
      exact hw.dest index'
  · by_cases hindex : index' = index
    · subst hindex
      rw [get_put hw hpart]
      split_ifs with hid
      · obtain ⟨kv, hkv, rfl⟩ := List.mem_map.mp hid
        rw [(JsMap.get_eq_some_iff (hw.source index')).mpr (hpart hkv)]
        exact .inr ⟨rfl, rfl⟩
      · exact .inl rfl
    · rw [dest_put_of_ne hindex]
      exact .inl rfl
  · exact dest_put_of_ne fun heq => hout (List.mem_singleton.mpr heq)

theorem copies_turn {scrollId : ℕ} (hw : w.Wf) : Copies indices w (w.turn scrollId rest) :=
  ⟨rfl, hw.dest, fun _ _ => .inl rfl, fun _ _ => rfl⟩

/-! ## The loops -/

/-- The documents of the source are in the destination. -/
def Has (w w' : World α) (index : String) : Prop :=
  ∀ id ∈ (w.source index).keys, (w'.dest index).get id = (w.source index).get id

theorem Copies.has (h : Copies indices w' w'') (hsource : w'.source = w.source) (hhas : Has w w' index) : Has w w'' index :=
  fun id hid => by
    have hkeeps : (w''.dest index).get id = (w'.source index).get id := h.keeps (by rw [hsource, hhas id hid])
    rwa [hsource] at hkeeps

/-- What a body that copies does, whether it returns or throws. -/
def CopiesAll (indices : List String) {β : Type} (w : World α) (_ : List (Event (MigrationAns (α := α)) (World α)))
    (r : Except MigrationError β) (w' : World α) : Prop :=
  Copies indices w w' ∧ r ≠ .error .tooManyPages ∧ (r.isOk = true → ∀ index ∈ indices, Has w w' index)

theorem copyPages_nil {scrollId : Option ℕ} :
    copyPages index pages (⟨[], scrollId⟩ : Page α) copied = return (copied, scrollId) := by
  cases pages <;> rfl

/-- **The loop over the pages.** `part` has been copied, and the page and what its scroll has still to return are left. -/
theorem alone_copyPages {scrollId : ℕ} (hw : w.Wf) (hall : part ++ (hits ++ w.scrolls scrollId) = w.source index)
    (hlast : hits = [] → w.scrolls scrollId = [])
    (hpart : ∀ id ∈ part.keys, (w.dest index).get id = (w.source index).get id)
    (hpages : (hits ++ w.scrolls scrollId).length ≤ pages) :
    (copyPages index pages ⟨hits, some scrollId⟩ copied).run.Alone Serves (CopiesAll [index] w) past w := by
  induction pages generalizing w past part hits scrollId copied with
  | zero =>
    obtain rfl : hits = [] := List.eq_nil_of_length_eq_zero (by rw [List.length_append] at hpages; omega)
    rw [copyPages_nil]
    refine ⟨.refl hw, nofun, fun _ index' hindex => ?_⟩
    obtain rfl := List.mem_singleton.mp hindex
    rw [hlast rfl, List.append_nil, List.append_nil] at hall
    exact fun id hid => hpart id (hall ▸ hid)
  | succ pages ih =>
    cases hits with
    | nil =>
      rw [copyPages_nil]
      refine ⟨.refl hw, nofun, fun _ index' hindex => ?_⟩
      obtain rfl := List.mem_singleton.mp hindex
      rw [hlast rfl, List.append_nil, List.append_nil] at hall
      exact fun id hid => hpart id (hall ▸ hid)
    | cons hit hits =>
      have hsub : hit :: hits ⊆ w.source index := fun kv hkv =>
        hall ▸ List.mem_append_right part (List.mem_append_left _ hkv)
      rw [copyPages]
      swap
      · nofun
      refine alone_throws_bind.2 fun r v hr => ?_
      cases hr with
      | rejected e he => exact ⟨.refl hw, fun heq => he (Except.error.inj heq), nofun⟩
      | bulkLost applied h e he =>
        exact ⟨copies_put hw (List.Subset.trans h.subset hsub), fun heq => he (Except.error.inj heq), nofun⟩
      | bulk applied h =>
        have hput := copies_put hw (List.Subset.trans h.subset hsub)
        by_cases hlength : applied.length = (hit :: hits).length
        swap
        · rw [show (applied.length != (hit :: hits).length) = true from bne_iff_ne.mpr hlength]
          exact ⟨hput, nofun, nofun⟩
        obtain rfl := h.eq_of_length hlength
        simp only [bne_self_eq_false]
        refine alone_throws_bind.2 fun r v hr => ?_
        cases hr with
        | rejected e he => exact ⟨hput, fun heq => he (Except.error.inj heq), nofun⟩
        | scroll next hits' rest' hall' hlast' =>
          have hleft : hits' ++ rest' = w.scrolls scrollId := hall'
          have hturn : Copies [index] w ((w.put index (hit :: hits)).turn next rest') :=
            hput.trans (copies_turn (hput.wf hw))
          have hscrolls : ((w.put index (hit :: hits)).turn next rest').scrolls next = rest' := Function.update_self ..
          have hcopied : ∀ id ∈ JsMap.keys (part ++ hit :: hits),
              ((w.put index (hit :: hits)).dest index).get id = (w.source index).get id := fun id hid => by
            rw [get_put hw hsub]
            split_ifs with hin
            · rfl
            · exact hpart id ((List.mem_append.mp (List.map_append ▸ hid)).resolve_right hin)
          have hall' : (part ++ hit :: hits) ++ (hits' ++ ((w.put index (hit :: hits)).turn next rest').scrolls next) =
              ((w.put index (hit :: hits)).turn next rest').source index := by
            rw [hscrolls, hleft, List.append_assoc]
            exact hall
          refine (ih (hturn.wf hw) hall' (fun h => hscrolls.trans (hlast' h)) hcopied ?_).mono
            fun es r w' h => ⟨hturn.trans h.1, h.2⟩
          rw [hscrolls, hleft]
          rw [List.length_append, List.length_cons] at hpages
          omega

theorem alone_send_attempt {o : MigrationOp α} {Q : Except MigrationError (MigrationVal o) → World α → Prop}
    (h : ∀ r w', Serves o w r w' → Q r w') :
    (attempt (send o)).run.Alone Serves (Returns fun _ r w' => Q r w') past w :=
  alone_attempt.2 fun r w' hr => ⟨r, rfl, h r w' hr⟩

theorem alone_copyIndex (hw : w.Wf) (hpages : (w.source index).length ≤ pages) :
    (copyIndex pages index).run.Alone Serves (CopiesAll [index] w) past w := by
  rw [copyIndex]
  refine alone_throws_bind.2 fun r v hr => ?_
  cases hr with
  | rejected e he => exact ⟨.refl hw, fun heq => he (Except.error.inj heq), nofun⟩
  | search scrollId hits rest hall hlast =>
    have hturn : Copies [index] w (w.turn scrollId rest) := copies_turn hw
    have hscrolls : (w.turn scrollId rest).scrolls scrollId = rest := Function.update_self ..
    have hstart : [] ++ (hits ++ (w.turn scrollId rest).scrolls scrollId) = (w.turn scrollId rest).source index := by
      rw [hscrolls]
      exact hall
    have hloop : (copyPages index pages ⟨hits, some scrollId⟩ 0).run.Alone Serves (CopiesAll [index] (w.turn scrollId rest))
        (past ++ [⟨.search index, .ok ⟨hits, some scrollId⟩, w, w.turn scrollId rest⟩]) (w.turn scrollId rest) :=
      alone_copyPages (hturn.wf hw) hstart (fun h => hscrolls.trans (hlast h)) nofun (by rwa [hscrolls, hall])
    refine alone_throws_bind.2 (hloop.mono fun es r v h => ?_)
    have hcopies := hturn.trans h.1
    cases r with
    | error e => exact ⟨hcopies, fun heq => h.2.1 (Except.error.inj heq ▸ rfl), nofun⟩
    | ok result =>
      obtain ⟨copied, last⟩ := result
      have hhas := h.2.2 rfl
      cases last with
      | none => exact ⟨hcopies, nofun, fun _ => hhas⟩
      | some last =>
        refine (alone_send_attempt (Q := fun _ w' => Copies [index] v w') fun r w' hr => ?_).throws_bind
          fun es' _ w' h' => ?_
        · cases hr with
          | rejected e he => exact .refl (hcopies.wf hw)
          | clearScroll => exact copies_turn (hcopies.wf hw)
        · exact ⟨hcopies.trans h', nofun, fun _ index' hindex => h'.has h.1.source (hhas index' hindex)⟩

theorem alone_copyAll {total : ℕ} (hw : w.Wf) (hpages : ∀ index, (w.source index).length ≤ pages) :
    (copyAll pages indices total).run.Alone Serves (CopiesAll indices w) past w := by
  induction indices generalizing w past total with
  | nil => exact ⟨.refl hw, nofun, fun _ => List.forall_mem_nil _⟩
  | cons index indices ih =>
    rw [copyAll]
    refine alone_throws_bind.2 ((alone_copyIndex hw (hpages index)).mono fun es r v h => ?_)
    have hcopies := h.1.mono (List.cons_subset_cons index (List.nil_subset indices))
    cases r with
    | error e => exact ⟨hcopies, fun heq => h.2.1 (Except.error.inj heq ▸ rfl), nofun⟩
    | ok copied =>
      have hhas := h.2.2 rfl index (List.mem_singleton_self index)
      refine (alone_send_attempt (Q := fun _ w' => Copies [] v w') fun r w' hr => ?_).throws_bind fun es' _ u hu => ?_
      · cases hr with
        | rejected e he => exact .refl (h.1.wf hw)
        | refresh => exact ⟨rfl, (h.1.wf hw).dest, fun _ _ => .inl rfl, fun _ _ => rfl⟩
      · have hsource : u.source = w.source := hu.source.trans h.1.source
        refine (ih (hu.wf (h.1.wf hw)) fun index => hsource ▸ hpages index).mono fun es'' r w' htail => ?_
        have hrest := (hcopies.trans (hu.mono (List.nil_subset _))).trans (htail.1.mono (List.subset_cons_self index indices))
        refine ⟨hrest, htail.2.1, fun hok index' hindex => ?_⟩
        rcases List.mem_cons.mp hindex with rfl | hindex
        · exact htail.1.has hsource (hu.has h.1.source hhas)
        · have htailHas := htail.2.2 hok index' hindex
          rw [Has, hsource] at htailHas
          exact htailHas

/-- The comparison of the counts, where they are current. -/
theorem alone_verify {mismatch : Bool} :
    (verify indices mismatch).run.Alone Serves (fun _ r w' => w' = w ∧ r ≠ .error .tooManyPages ∧ ∀ result, r = .ok result →
      (∀ index ∈ indices, w.stale index = false) →
        (result = true ↔ mismatch = true ∨ ∃ index ∈ indices, (w.source index).size ≠ (w.dest index).size)) past w := by
  induction indices generalizing past mismatch with
  | nil =>
    refine ⟨rfl, nofun, fun result hr _ => ?_⟩
    obtain rfl := Except.ok.inj hr
    simp
  | cons index indices ih =>
    rw [verify]
    refine alone_throws_bind.2 fun r v hr => ?_
    cases hr with
    | rejected e he => exact ⟨rfl, fun heq => he (Except.error.inj heq), nofun⟩
    | counts dstCount h =>
      refine ih.mono fun es r w' hr => ⟨hr.1, hr.2.1, fun result hok hfresh => ?_⟩
      obtain ⟨hindex, hindices⟩ := List.forall_mem_cons.mp hfresh
      rw [hr.2.2 result hok hindices, List.exists_mem_cons_iff, Bool.or_eq_true, bne_iff_ne, or_assoc, h hindex]

/-! ## The whole migration -/

theorem mem_keys_iff : id ∈ m.keys ↔ (m.get id).isSome = true := by
  rw [← JsMap.has_eq_isSome]
  simp [JsMap.keys, JsMap.has]

/-- An index that has the documents of another one is the same exactly if it has as many. -/
theorem size_eq_iff (hm : m.keys.Nodup) (hdocs : docs.keys.Nodup) (hhas : ∀ id ∈ docs.keys, m.get id = docs.get id) :
    docs.size = m.size ↔ ∀ id, m.get id = docs.get id := by
  have hsub : docs.keys ⊆ m.keys := fun id hid => by
    rw [mem_keys_iff, hhas id hid]
    exact mem_keys_iff.mp hid
  have hsubperm : List.Subperm docs.keys m.keys := List.subperm_of_subset hdocs hsub
  have hsize : ∀ l : JsMap String α, l.size = l.keys.length := fun l => (List.length_map _).symm
  rw [hsize, hsize]
  constructor
  · intro hlength id
    have hperm := hsubperm.perm_of_length_le (Nat.le_of_eq hlength.symm)
    by_cases hid : id ∈ docs.keys
    · exact hhas id hid
    · have hout : id ∉ m.keys := fun h => hid (hperm.mem_iff.mpr h)
      rw [mem_keys_iff, Bool.not_eq_true, Option.isSome_eq_false_iff, Option.isNone_iff_eq_none] at hid hout
      rw [hid, hout]
  · intro hsame
    have hperm : List.Perm docs.keys m.keys := (List.perm_ext_iff_of_nodup hdocs hm).mpr fun id => by
      rw [mem_keys_iff, mem_keys_iff, hsame]
    exact hperm.length_eq

/-- The indices that a history copies. -/
def listed : List (Event (MigrationAns (α := α)) (World α)) → List String
  | ⟨.catIndices, .ok rows, _, _⟩ :: _ => nonEmpty rows
  | _ => []

/-- What a migration does. It writes nothing but documents of the source in the listed indices; if it does not throw, all
of them are there; and if the counts were current, the exit code tells whether the indices are the same. -/
structure Migrated (indices : List String) (w w' : World α) (r : Except MigrationError Bool) : Prop where
  copies : Copies indices w w'
  ends : r ≠ .error .tooManyPages
  complete : r.isOk = true → ∀ index ∈ indices, Has w w' index
  verified : r.isOk = true → (∀ index ∈ indices, w'.stale index = false) →
    (exitCode r = 0 ↔ ∀ index ∈ indices, ∀ id, (w'.dest index).get id = (w.source index).get id)

theorem Migrated.of_error {e : MigrationError} (h : Copies indices w w') (he : e ≠ .tooManyPages) :
    Migrated indices w w' (.error e) := ⟨h, fun heq => he (Except.error.inj heq), nofun, nofun⟩

theorem alone_copyAndVerify (hw : w.Wf) (hpages : ∀ index, (w.source index).length ≤ pages) :
    (copyAndVerify pages indices).run.Alone Serves (fun _ r w' => Migrated indices w w' r) past w := by
  rw [copyAndVerify]
  refine alone_throws_bind.2 fun r v hr => ?_
  cases hr with
  | rejected e he => exact .of_error (.refl hw) he
  | createIndices =>
    refine alone_throws_bind.2 ((alone_copyAll hw hpages).mono fun es r v h => ?_)
    cases r with
    | error e => exact .of_error h.1 fun heq => h.2.1 (heq ▸ rfl)
    | ok total =>
      have hhas := h.2.2 rfl
      have hwf := h.1.wf hw
      refine alone_verify.mono fun es' r w' hr => ?_
      obtain ⟨rfl, hends, hresult⟩ := hr
      refine ⟨h.1, hends, fun _ => hhas, fun hok hfresh => ?_⟩
      cases r with
      | error e => cases hok
      | ok result =>
        have hsame : ∀ index ∈ indices, (w'.source index).size = (w'.dest index).size ↔
            ∀ id, (w'.dest index).get id = (w.source index).get id := fun index hindex => by
          rw [h.1.source]
          exact size_eq_iff (hwf.dest index) (hw.source index) (hhas index hindex)
        have hmismatch : result = true ↔ ∃ index ∈ indices, (w'.source index).size ≠ (w'.dest index).size := by
          rw [hresult result rfl hfresh]
          simp
        have hexit : exitCode (.ok result) = 0 ↔ ¬ result = true := by cases result <;> simp [exitCode]
        rw [hexit, hmismatch]
        push Not
        exact forall₂_congr hsame

/-- **The migration** of clusters that nobody else writes to: however its requests go, a dry run writes nothing, and any
other one copies the listed indices as it should. -/
theorem migrate_exact {es : List (Event (MigrationAns (α := α)) (World α))} {r : Except MigrationError Bool} {dryRun : Bool}
    (h : (migrate pages dryRun).run.Runs es r) (hes : Chain Serves w es w') (hw : w.Wf)
    (hpages : ∀ index, (w.source index).length ≤ pages) :
    match dryRun with
    | true => w'.dest = w.dest
    | false => Migrated (listed es) w w' r := by
  obtain ⟨ans, pre, post, fs, rfl, hrest⟩ := runs_await.mp h
  obtain ⟨rfl, hserves, hfs⟩ := hes
  change Serves .catIndices pre ans post at hserves
  cases hserves with
  | rejected e he =>
    obtain ⟨rfl, rfl⟩ := runs_ret.mp hrest
    obtain rfl : pre = w' := hfs
    cases dryRun with
    | true => rfl
    | false => exact .of_error (.refl hw) he
  | catIndices rows =>
    change (if nonEmpty rows = [] then pure false else if dryRun then pure false
      else copyAndVerify pages (nonEmpty rows) : MigrationJs α Bool).run.Runs fs r at hrest
    have hquiet : fs = [] ∧ .ok false = r → w' = pre ∧ Migrated [] pre w' r := fun ⟨hnil, hok⟩ => by
      subst hnil hok
      obtain rfl : pre = w' := hfs
      exact ⟨rfl, .refl hw, nofun, fun _ => List.forall_mem_nil _, fun _ _ => iff_of_true rfl (List.forall_mem_nil _)⟩
    by_cases hempty : nonEmpty rows = []
    · rw [if_pos hempty] at hrest
      obtain ⟨rfl, hmigrated⟩ := hquiet (runs_throws_pure.mp hrest)
      cases dryRun with
      | true => rfl
      | false =>
        show Migrated (nonEmpty rows) w' w' r
        rwa [hempty]
    · rw [if_neg hempty] at hrest
      cases dryRun with
      | true =>
        rw [if_pos rfl] at hrest
        exact congrArg _ (hquiet (runs_throws_pure.mp hrest)).1
      | false =>
        rw [if_neg Bool.false_ne_true] at hrest
        have hall : (copyAndVerify pages (nonEmpty rows)).run.Alone Serves
            (fun _ r w' => Migrated (nonEmpty rows) pre w' r) [] pre := alone_copyAndVerify hw hpages
        exact hall.runs hrest hfs

end Copying

/-- A cluster that answers at once, with whole indices, and lists one index. -/
def answering (w : World α) : (o : MigrationOp α) → MigrationAns o × World α
  | .catIndices => (.ok [⟨some "benchmarker-queue", 2⟩], w)
  | .createIndices => (.ok (), w)
  | .search index => (.ok ⟨w.source index, some 0⟩, w.turn 0 [])
  | .scroll scrollId => (.ok ⟨w.scrolls scrollId, some scrollId⟩, w.turn scrollId [])
  | .bulk index docs => (.ok false, w.put index docs)
  | .clearScroll scrollId => (.ok (), w.turn scrollId [])
  | .refresh index => (.ok (), { w with stale := Function.update w.stale index false })
  | .counts index => (.ok ((w.source index).size, (w.dest index).size), w)

theorem serves_answering (o : MigrationOp α) (w : World α) : Serves o w (answering w o).1 (answering w o).2 := by
  cases o with
  | catIndices => exact .catIndices _
  | createIndices => exact .createIndices
  | search index => exact .search 0 _ [] (List.append_nil _) fun _ => rfl
  | scroll scrollId => exact .scroll scrollId _ [] (List.append_nil _) fun _ => rfl
  | bulk index docs =>
    have hall : Serves (.bulk index docs) w (.ok (docs.length != docs.length)) (w.put index docs) :=
      .bulk docs (List.Sublist.refl docs)
    rwa [bne_self_eq_false] at hall
  | clearScroll scrollId => exact .clearScroll
  | refresh index => exact .refresh
  | counts index => exact .counts _ fun _ => rfl

/-- Two documents, one of which has been migrated before. -/
def twoDocuments : World String where
  source index := if index = "benchmarker-queue" then [("1", "a"), ("2", "b")] else []
  dest index := if index = "benchmarker-queue" then [("1", "old")] else []

/-- The migration of the two documents. -/
def twoDocumentsRun : List (Event (MigrationAns (α := String)) (World String)) × Except MigrationError Bool × World String :=
  (migrate 2 false).run.drive (fun o w => answering w o) twoDocuments

theorem twoDocuments_migrated :
    Migrated (listed twoDocumentsRun.1) twoDocuments twoDocumentsRun.2.2 twoDocumentsRun.2.1 := by
  have hruns : (migrate 2 false).run.Runs twoDocumentsRun.1 twoDocumentsRun.2.1 := runs_drive _ _ _
  have hchain : Chain Serves twoDocuments twoDocumentsRun.1 twoDocumentsRun.2.2 :=
    (chain_drive _ _ _).mono fun o w r w' h => by
      have hserves := serves_answering o w
      rwa [h] at hserves
  have hsource : ∀ index, (twoDocuments.source index).keys.Nodup ∧ (twoDocuments.source index).length ≤ 2 := fun index => by
    show (JsMap.keys (if _ then _ else _)).Nodup ∧ List.length (if _ then _ else _) ≤ 2
    split_ifs
    · decide
    · decide
  have hdest : ∀ index, (twoDocuments.dest index).keys.Nodup := fun index => by
    show (JsMap.keys (if _ then _ else _)).Nodup
    split_ifs
    · decide
    · decide
  exact migrate_exact hruns hchain ⟨fun index => (hsource index).1, hdest⟩ fun index => (hsource index).2

end Benchmarker.Migration
