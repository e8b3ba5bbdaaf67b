import Mathlib.Data.List.Nodup
import Mathlib.Data.List.Induction
import MediaMux.Proofs.Notifier.Cascade
import MediaMux.Proofs.Notifier.Shelf

/-!
# Programs at a desk

A name can be given again, so a program is run on a shelf of notifiers that are tagged by the step
that created them, and the desk is that shelf with the tags left out (`log_eq`). What became of a
notifier is then read off the text of the program: which step created it (`Created`), until when it
has its name (`Named`), what was done to it under that name (`Notified`, `Defused`) and which
notifiers it was moved into (`Owns`). Every callback runs once, but those of notifiers that were
defused (`perm_bench`), and which of them run acked is decided by the program alone (`acked_bench`).
-/

namespace MediaMux

/-- A notifier of a program: the step that created it, and the name that it was given. -/
structure Tag where
  step : Nat
  name : String
deriving DecidableEq

namespace Desk

/-! ### What a program says -/

/-- The program creates the notifier. -/
def Created (program : List Step) (t : Tag) : Prop :=
  ∃ s, program[t.step]? = some s ∧ s.created? = some t.name

/-- After the program the notifier has its name. -/
def Named (program : List Step) (t : Tag) : Prop :=
  Created program t ∧ ∀ k s, t.step < k → program[k]? = some s → s.clears t.name = false

/-- The program does `s` when the notifier has its name. -/
def Meets (program : List Step) (s : Step) (t : Tag) : Prop :=
  ∃ k, program[k]? = some s ∧ Named (program.take k) t

/-- The notifier itself is told `d`. -/
def Notified (program : List Step) (t : Tag) (d : Delivery) : Prop :=
  Meets program (.notify t.name d) t

def Defused (program : List Step) (t : Tag) : Prop := Meets program (.defuse t.name) t

/-- The notifier `inner` is moved into the callback of `owner`. -/
def Owns (program : List Step) (owner : Tag) (forwards : Bool) (inner : Tag) : Prop :=
  program[owner.step]? = some (.createOwning owner.name inner.name forwards) ∧
    Named (program.take owner.step) inner

variable {program : List Step} {s : Step} {t : Tag}

theorem Created.step_lt (h : Created program t) : t.step < program.length := by
  obtain ⟨s, hs, -⟩ := h
  exact (List.getElem?_eq_some_iff.mp hs).1

theorem getElem?_concat (k : Nat) :
    (program ++ [s])[k]? = if k = program.length then some s else program[k]? := by
  by_cases hk : k = program.length
  · simp [hk]
  · rw [if_neg hk]
    by_cases hlt : k < program.length
    · exact List.getElem?_append_left hlt
    · have hout : (program ++ [s]).length ≤ k := by
        rw [List.length_append, List.length_singleton]
        omega
      rw [List.getElem?_eq_none hout, List.getElem?_eq_none (by omega)]

theorem created_concat :
    Created (program ++ [s]) t ↔
      Created program t ∨ (t.step = program.length ∧ s.created? = some t.name) := by
  unfold Created
  rw [getElem?_concat]
  by_cases hlast : t.step = program.length
  · simp [hlast]
  · simp [hlast]

theorem clears_of_created {name : String} (h : s.created? = some name) : s.clears name = true := by
  cases s <;> simp_all [Step.created?, Step.clears]

theorem named_concat :
    Named (program ++ [s]) t ↔
      (t.step = program.length ∧ s.created? = some t.name) ∨
        (Named program t ∧ s.clears t.name = false) := by
  constructor
  · rintro ⟨hcreated, hkept⟩
    rcases created_concat.mp hcreated with hbefore | hlast
    · have hlt := hbefore.step_lt
      refine Or.inr ⟨⟨hbefore, ?_⟩, hkept program.length s hlt (by simp)⟩
      intro k s' hk hs'
      have hin := (List.getElem?_eq_some_iff.mp hs').1
      exact hkept k s' hk (by rw [List.getElem?_append_left hin, hs'])
    · exact Or.inl hlast
  · rintro (hlast | ⟨⟨hcreated, hkept⟩, hs⟩)
    · refine ⟨created_concat.mpr (Or.inr hlast), ?_⟩
      intro k s' hk hs'
      have hin := (List.getElem?_eq_some_iff.mp hs').1
      simp only [List.length_append, List.length_singleton] at hin
      omega
    · refine ⟨created_concat.mpr (Or.inl hcreated), ?_⟩
      intro k s' hk hs'
      rw [getElem?_concat] at hs'
      by_cases hlast : k = program.length
      · rw [if_pos hlast] at hs'
        cases hs'
        exact hs
      · rw [if_neg hlast] at hs'
        exact hkept k s' hk hs'

theorem meets_concat {x : Step} :
    Meets (program ++ [s]) x t ↔ Meets program x t ∨ (s = x ∧ Named program t) := by
  constructor
  · rintro ⟨k, hk, hnamed⟩
    rw [getElem?_concat] at hk
    by_cases hlast : k = program.length
    · rw [if_pos hlast] at hk
      subst hlast
      rw [List.take_left] at hnamed
      exact Or.inr ⟨Option.some.inj hk, hnamed⟩
    · rw [if_neg hlast] at hk
      have hlt := (List.getElem?_eq_some_iff.mp hk).1
      rw [List.take_append_of_le_length (by omega)] at hnamed
      exact Or.inl ⟨k, hk, hnamed⟩
  · rintro (⟨k, hk, hnamed⟩ | ⟨rfl, hnamed⟩)
    · have hlt := (List.getElem?_eq_some_iff.mp hk).1
      refine ⟨k, by rw [List.getElem?_append_left hlt, hk], ?_⟩
      rwa [List.take_append_of_le_length (by omega)]
    · exact ⟨program.length, by simp, by rwa [List.take_left]⟩

theorem owns_concat {owner inner : Tag} {forwards : Bool} :
    Owns (program ++ [s]) owner forwards inner ↔
      Owns program owner forwards inner ∨
        (owner.step = program.length ∧ s = .createOwning owner.name inner.name forwards ∧
          Named program inner) := by
  unfold Owns
  rw [getElem?_concat]
  by_cases hlast : owner.step = program.length
  · simp [hlast]
  · by_cases hlt : owner.step < program.length
    · simp [hlast, List.take_append_of_le_length (Nat.le_of_lt hlt)]
    · have hnone : program[owner.step]? = none := List.getElem?_eq_none (by omega)
      simp [hlast, hnone]

def created (program : List Step) : List Tag :=
  program.zipIdx.filterMap fun e => e.1.created?.map (Tag.mk e.2)

theorem created_append_singleton (program : List Step) (s : Step) :
    created (program ++ [s]) =
      created program ++ (s.created?.map (Tag.mk program.length)).toList := by
  unfold created
  rw [List.zipIdx_append, List.filterMap_append]
  cases h : s.created? <;> simp [h]

theorem mem_created : t ∈ created program ↔ Created program t := by
  induction program using List.reverseRecOn with
  | nil => simp [created, Created]
  | append_singleton program s ih =>
    rw [created_append_singleton, List.mem_append, ih, created_concat]
    refine or_congr_right ?_
    cases hs : s.created? with
    | none => simp
    | some name =>
      obtain ⟨step, own⟩ := t
      simp [eq_comm]

theorem nodup_created (program : List Step) : (created program).Nodup := by
  induction program using List.reverseRecOn with
  | nil => exact List.nodup_nil
  | append_singleton program s ih =>
    rw [created_append_singleton]
    cases hs : s.created? with
    | none => simpa using ih
    | some name =>
      have hnew : Tag.mk program.length name ∉ created program := by
        intro hmem
        have hlt := (mem_created.mp hmem).step_lt
        exact Nat.lt_irrefl _ hlt
      simpa [List.nodup_append] using ⟨ih, fun t ht heq => hnew (heq ▸ ht)⟩

/-! ### Running a program -/

/-- A shelf on which each notifier is tagged, the number of steps done, and what was told. -/
structure Bench where
  done : Nat := 0
  shelf : Shelf Tag := []
  told : List (Tag × Delivery) := []

/-- The bench after a step. -/
def Bench.step (b : Bench) (s : Step) : Bench :=
  let (shelf, told) := b.shelf.step (Tag.mk b.done) s
  { done := b.done + 1, shelf := shelf, told := b.told ++ told }

def bench (program : List Step) : Bench := program.foldl Bench.step {}

/-- What all callbacks say, when what remains after the program is dropped. -/
def told (program : List Step) : List (Tag × Delivery) :=
  (bench program).told ++ (bench program).shelf.flatMap fun e => e.2.drop

/-- The desk after a program, and the lines left on the way. -/
def after (program : List Step) : Desk × List Line :=
  program.foldl (fun r s => ((r.1.step s).1, r.2 ++ (r.1.step s).2.2)) ({}, [])

/-- The lines that a program leaves, with those left when what remains is dropped. -/
def log (program : List Step) : List Line := (after program).2 ++ (after program).1.finish

theorem bench_concat (program : List Step) (s : Step) :
    bench (program ++ [s]) = (bench program).step s := by
  unfold bench
  rw [List.foldl_append]
  rfl

theorem done_bench (program : List Step) : (bench program).done = program.length := by
  induction program using List.reverseRecOn with
  | nil => rfl
  | append_singleton program s ih =>
    rw [bench_concat, List.length_append]
    show (bench program).done + 1 = _
    rw [ih]
    rfl

theorem shelf_concat (program : List Step) (s : Step) :
    (bench (program ++ [s])).shelf =
      ((bench program).shelf.step (Tag.mk program.length) s).1 := by
  rw [bench_concat, ← done_bench]
  rfl

theorem told_concat (program : List Step) (s : Step) :
    (bench (program ++ [s])).told =
      (bench program).told ++ ((bench program).shelf.step (Tag.mk program.length) s).2 := by
  rw [bench_concat, ← done_bench]
  rfl

theorem sorted_bench (program : List Step) : (bench program).shelf.Sorted := by
  induction program using List.reverseRecOn with
  | nil => exact List.Pairwise.nil
  | append_singleton program s ih =>
    rw [shelf_concat]
    exact Shelf.Sorted.step ih s

/-- The desk is the shelf with the tags left out. -/
theorem after_eq (program : List Step) :
    (after program).1.notifiers = (bench program).shelf.mapValues (Notifier.map Tag.name) ∧
      (after program).2.filterMap Line.told? =
        (bench program).told.map (Prod.map Tag.name id) := by
  induction program using List.reverseRecOn with
  | nil => exact ⟨rfl, rfl⟩
  | append_singleton program s ih =>
    obtain ⟨hshelf, htold⟩ := ih
    have hdesk := Shelf.step_desk (after program).1 s
    have hnames := Shelf.step_mapValues Tag.name (Tag.mk program.length) (bench program).shelf s
    rw [← hshelf, show Tag.name ∘ Tag.mk program.length = id from rfl] at hnames
    rw [hnames] at hdesk
    have hafter : after (program ++ [s]) =
        (((after program).1.step s).1, (after program).2 ++ ((after program).1.step s).2.2) := by
      unfold after
      rw [List.foldl_append]
      rfl
    rw [hafter, shelf_concat, told_concat]
    refine ⟨hdesk.1, ?_⟩
    rw [List.filterMap_append, htold, hdesk.2, List.map_append]

theorem log_eq (program : List Step) :
    (log program).filterMap Line.told? = (told program).map (Prod.map Tag.name id) := by
  obtain ⟨hshelf, htold⟩ := after_eq program
  have hguards : ∀ guards : Keyed String Unit,
      (guards.map fun e => Line.guardDropped e.1).filterMap Line.told? = [] := by
    intro guards
    rw [List.filterMap_map]
    exact List.filterMap_eq_nil_iff.mpr fun e _ => rfl
  unfold log told finish
  rw [List.filterMap_append, List.filterMap_append, hguards, List.append_nil,
    Shelf.filterMap_lines, htold, hshelf, List.map_append]
  congr 1
  rw [Keyed.mapValues, List.flatMap_map, List.map_flatMap]
  exact List.flatMap_congr fun e _ => Notifier.drop_map Tag.name e.2

/-! ### The shelf of a program -/

/-- A name on the shelf is that of the notifier that has it by the text of the program. -/
theorem named_bench (program : List Step) (name : String) (t : Tag) :
    ((bench program).shelf.get? name).map Notifier.label = some t ↔
      t.name = name ∧ Named program t := by
  induction program using List.reverseRecOn generalizing t with
  | nil => simp [bench, Named, Created]
  | append_singleton program s ih =>
    obtain ⟨step, own⟩ := t
    rw [shelf_concat, Shelf.label_step, named_concat]
    by_cases hcreated : s.created? = some name
    · have hclears := clears_of_created hcreated
      rw [if_pos hcreated]
      constructor
      · intro heq
        cases heq
        exact ⟨rfl, Or.inl ⟨rfl, hcreated⟩⟩
      · rintro ⟨rfl, ⟨rfl, -⟩ | ⟨-, hkept⟩⟩
        · rfl
        · simp [hclears] at hkept
    · rw [if_neg hcreated]
      by_cases hclears : s.clears name = true
      · rw [if_pos hclears]
        constructor
        · intro heq
          cases heq
        · rintro ⟨rfl, ⟨-, hother⟩ | ⟨-, hkept⟩⟩
          · exact absurd hother hcreated
          · simp [hclears] at hkept
      · rw [if_neg hclears, ih]
        constructor
        · rintro ⟨rfl, hnamed⟩
          exact ⟨rfl, Or.inr ⟨hnamed, Bool.eq_false_iff.mpr hclears⟩⟩
        · rintro ⟨rfl, ⟨-, hother⟩ | ⟨hnamed, -⟩⟩
          · exact absurd hother hcreated
          · exact ⟨rfl, hnamed⟩

/-- A notifier owns what the program moved into it, down to the innermost. -/
def Fits (program : List Step) : Notifier Tag → Prop
  | .plain t => t.step < program.length ∧ ∀ forwards inner, ¬ Owns program t forwards inner
  | .owning t forwards inner =>
    t.step < program.length ∧
      (∀ forwards' i, Owns program t forwards' i ↔ forwards' = forwards ∧ i = inner.label) ∧
      Fits program inner

theorem Fits.concat {n : Notifier Tag} (h : Fits program n) (s : Step) :
    Fits (program ++ [s]) n := by
  have hsame : ∀ {t : Tag} {forwards inner}, t.step < program.length →
      (Owns (program ++ [s]) t forwards inner ↔ Owns program t forwards inner) := by
    intro t forwards inner hlt
    rw [owns_concat]
    exact or_iff_left fun hlast => by omega
  have hlonger : ∀ {k : Nat}, k < program.length → k < (program ++ [s]).length := by
    intro k hk
    rw [List.length_append]
    omega
  induction n with
  | plain t =>
    obtain ⟨hlt, hnone⟩ := h
    exact ⟨hlonger hlt, fun forwards inner => by rw [hsame hlt]; exact hnone forwards inner⟩
  | owning t forwards inner ih =>
    obtain ⟨hlt, howns, hinner⟩ := h
    exact ⟨hlonger hlt, fun forwards' i => by rw [hsame hlt, howns], ih hinner⟩

/-- What a step that creates a notifier moves into it. -/
theorem owns_created {forwards : Bool} {name : String} {inner : Tag} :
    Owns (program ++ [s]) ⟨program.length, name⟩ forwards inner ↔
      s = .createOwning name inner.name forwards ∧ Named program inner := by
  have hbefore : ¬ Owns program ⟨program.length, name⟩ forwards inner := by
    rintro ⟨hstep, -⟩
    have hlt := (List.getElem?_eq_some_iff.mp hstep).1
    exact Nat.lt_irrefl _ hlt
  rw [owns_concat]
  simp [hbefore]

theorem fits_bench {name : String} {n : Notifier Tag}
    (h : (bench program).shelf.get? name = some n) : Fits program n := by
  induction program using List.reverseRecOn generalizing name n with
  | nil => simp [bench] at h
  | append_singleton program s ih =>
    have hlast : program.length < (program ++ [s]).length := by simp
    rw [shelf_concat] at h
    rcases Shelf.get?_step_cases h with hold | ⟨rfl, rfl⟩ | ⟨moved, forwards, rfl, hmoved⟩
    · exact (ih hold).concat s
    · refine ⟨hlast, fun forwards inner => ?_⟩
      rw [owns_created]
      rintro ⟨hstep, -⟩
      cases hstep
    · rcases hmoved with ⟨hnone, rfl⟩ | ⟨owned, howned, rfl⟩
      · refine ⟨hlast, fun forwards' inner => ?_⟩
        rw [owns_created]
        rintro ⟨hstep, hnamed⟩
        cases hstep
        -- a notifier that has the name would be on the shelf
        have hget := (named_bench program inner.name inner).mpr ⟨rfl, hnamed⟩
        simp [hnone] at hget
      · refine ⟨hlast, fun forwards' i => ?_, (ih howned).concat _⟩
        have hlabel := named_bench program moved i
        rw [howned, Option.map_some, Option.some_inj] at hlabel
        rw [owns_created]
        constructor
        · rintro ⟨hstep, hnamed⟩
          cases hstep
          exact ⟨rfl, (hlabel.mpr ⟨rfl, hnamed⟩).symm⟩
        · rintro ⟨rfl, rfl⟩
          obtain ⟨hname, hnamed⟩ := hlabel.mp rfl
          exact ⟨by rw [hname], hnamed⟩

/-! ### Every callback runs once -/

theorem mem_defused? (program : List Step) (s : Step) (t : Tag) :
    t ∈ ((bench program).shelf.defused? s).toList ↔ s = .defuse t.name ∧ Named program t := by
  cases s with
  | defuse name =>
    rw [Option.mem_toList, Shelf.defused?, named_bench]
    constructor
    · rintro ⟨rfl, hnamed⟩
      exact ⟨rfl, hnamed⟩
    · rintro ⟨heq, hnamed⟩
      cases heq
      exact ⟨rfl, hnamed⟩
  | create _ | createOwning _ _ _ | notify _ _ | drop _ | createGuard _ | dropGuard _ =>
    simp [Shelf.defused?]

/-- What a program created was told, is on the shelf or was defused. -/
theorem perm_bench (program : List Step) :
    ∃ gone, (gone ++ ((bench program).told.map Prod.fst ++ (bench program).shelf.labels)).Perm
        (created program) ∧
      ∀ t, t ∈ gone ↔ Defused program t := by
  induction program using List.reverseRecOn with
  | nil => exact ⟨[], List.Perm.refl _, fun t => by simp [Defused, Meets]⟩
  | append_singleton program s ih =>
    obtain ⟨gone, hperm, hgone⟩ := ih
    have hstep := @Shelf.perm_step _ (Tag.mk program.length) _ (sorted_bench program) s
    refine ⟨gone ++ ((bench program).shelf.defused? s).toList, ?_, ?_⟩
    · rw [told_concat, shelf_concat, created_append_singleton, List.map_append]
      generalize ((bench program).shelf.defused? s).toList = defused at hstep ⊢
      generalize ((bench program).shelf.step (Tag.mk program.length) s) = next at hstep ⊢
      generalize (bench program).told.map Prod.fst = before at hperm ⊢
      have hmove : ((gone ++ defused) ++ ((before ++ next.2.map Prod.fst) ++ next.1.labels)).Perm
          ((gone ++ before) ++ (defused ++ (next.2.map Prod.fst ++ next.1.labels))) := by
        simp only [List.append_assoc]
        exact (List.perm_append_comm_assoc _ _ _).append_left gone
      refine hmove.trans ((hstep.append_left _).trans ?_)
      rw [← List.append_assoc, List.append_assoc gone]
      exact hperm.append_right _
    · intro t
      rw [List.mem_append, hgone, mem_defused?]
      exact meets_concat.symm

/-- At the end all callbacks ran that were not defused. -/
theorem perm_told (program : List Step) :
    ∃ gone, (gone ++ (told program).map Prod.fst).Perm (created program) ∧
      ∀ t, t ∈ gone ↔ Defused program t := by
  obtain ⟨gone, hperm, hgone⟩ := perm_bench program
  have hrest : ((bench program).shelf.flatMap fun e => e.2.drop).map Prod.fst =
      (bench program).shelf.labels := by
    rw [List.map_flatMap]
    exact List.flatMap_congr fun e _ => e.2.map_fst_drop
  refine ⟨gone, ?_, hgone⟩
  rw [told, List.map_append, hrest]
  exact hperm

theorem created_of_told {d : Delivery} (h : (t, d) ∈ told program) : Created program t := by
  obtain ⟨gone, hperm, -⟩ := perm_told program
  have hmem : t ∈ (told program).map Prod.fst := List.mem_map.mpr ⟨(t, d), h, rfl⟩
  exact mem_created.mp (hperm.subset (List.mem_append_right _ hmem))

theorem not_defused_of_told {d : Delivery} (h : (t, d) ∈ told program) : ¬ Defused program t := by
  obtain ⟨gone, hperm, hgone⟩ := perm_told program
  have hmem : t ∈ (told program).map Prod.fst := List.mem_map.mpr ⟨(t, d), h, rfl⟩
  have hnodup := hperm.nodup_iff.mpr (nodup_created program)
  intro hdefused
  exact (List.nodup_append.mp hnodup).2.2 t ((hgone t).mpr hdefused) t hmem rfl

/-- The only line of a label that occurs once. -/
theorem filter_of_count {α β : Type} [DecidableEq α] {lines : List (α × β)} {a : α}
    (h : (lines.map Prod.fst).count a = 1) :
    ∃ b, lines.filter (fun x => x.1 = a) = [(a, b)] := by
  have hlength : (lines.filter fun x => x.1 = a).length = 1 := by
    rw [← List.countP_eq_length_filter, ← h, List.count, List.countP_map]
    rfl
  obtain ⟨x, hx⟩ := List.length_eq_one_iff.mp hlength
  have hmem : x ∈ lines.filter fun x => x.1 = a := by rw [hx]; exact List.mem_singleton_self x
  have hfst : x.1 = a := of_decide_eq_true (List.mem_filter.mp hmem).2
  exact ⟨x.2, by rw [hx, ← hfst]⟩

theorem told_once (hcreated : Created program t) (hkept : ¬ Defused program t) :
    ∃ d, (told program).filter (fun x => x.1 = t) = [(t, d)] := by
  obtain ⟨gone, hperm, hgone⟩ := perm_told program
  refine filter_of_count ?_
  have hcount := hperm.count_eq t
  have hnone : gone.count t = 0 := List.count_eq_zero.mpr fun hmem => hkept ((hgone t).mp hmem)
  have hone : (created program).count t = 1 :=
    List.count_eq_one_of_mem (nodup_created program) (mem_created.mpr hcreated)
  rw [List.count_append, hnone, hone, Nat.zero_add] at hcount
  exact hcount

/-! ### Which callbacks run acked -/

/-- An ack goes from a notifier to what it owns as long as each one forwards. -/
theorem acked_notify_iff {n : Notifier Tag} (h : Fits program n) :
    (t, .acked) ∈ n.notify .acked ↔
      t = n.label ∨ ∃ owner, Owns program owner true t ∧ (owner, .acked) ∈ n.notify .acked := by
  induction n with
  | plain label =>
    have hnone : ∀ owner, Owns program owner true t → ¬ owner = label :=
      fun owner howns heq => h.2 true t (heq ▸ howns)
    simp only [Notifier.notify, Notifier.label, List.mem_singleton, Prod.mk.injEq, and_true]
    refine (or_iff_left ?_).symm
    rintro ⟨owner, howns, heq⟩
    exact hnone owner howns heq
  | owning label forwards inner ih =>
    obtain ⟨-, howns, hinner⟩ := h
    cases forwards with
    | false =>
      have hlost : ∀ x, (x, Delivery.acked) ∉ inner.notify .lost := inner.acked_notmem_drop
      have hnone : ∀ owner, Owns program owner true t → ¬ owner = label := by
        rintro owner howner rfl
        exact absurd ((howns true t).mp howner).1 (by decide)
      simp only [Notifier.notify, Notifier.label, List.mem_cons, Prod.mk.injEq, and_true, hlost,
        Bool.false_eq_true, if_false, or_false]
      refine (or_iff_left ?_).symm
      rintro ⟨owner, howner, heq⟩
      exact hnone owner howner heq
    | true =>
      have hhead : Owns program label true t ↔ t = inner.label := by simpa using howns true t
      have htail := ih hinner
      simp only [Notifier.notify, Notifier.label, List.mem_cons, Prod.mk.injEq, and_true, if_true]
      rw [htail]
      refine or_congr_right ?_
      constructor
      · rintro (hlabel | ⟨owner, howner, hmem⟩)
        · exact ⟨label, hhead.mpr hlabel, Or.inl rfl⟩
        · exact ⟨owner, howner, Or.inr hmem⟩
      · rintro ⟨owner, howner, rfl | hmem⟩
        · exact Or.inl (hhead.mp howner)
        · exact Or.inr ⟨owner, howner, hmem⟩

theorem acked_bench (program : List Step) (t : Tag) :
    (t, .acked) ∈ (bench program).told ↔
      Notified program t .acked ∨
        ∃ owner, Owns program owner true t ∧ (owner, .acked) ∈ (bench program).told := by
  induction program using List.reverseRecOn generalizing t with
  | nil => simp [bench, Notified, Meets]
  | append_singleton program s ih =>
    have hearly : ∀ {owner : Tag}, (owner, Delivery.acked) ∈ (bench program).told →
        (Owns (program ++ [s]) owner true t ↔ Owns program owner true t) := by
      intro owner hmem
      have hlt := (created_of_told (List.mem_append_left _ hmem)).step_lt
      rw [owns_concat]
      exact or_iff_left fun hlast => by omega
    have hnotified : Notified (program ++ [s]) t .acked ↔
        Notified program t .acked ∨ (s = .notify t.name .acked ∧ Named program t) := meets_concat
    simp only [told_concat, List.mem_append, ih t, hnotified, Shelf.acked_step]
    by_cases hack : ∃ name n, s = .notify name .acked ∧ (bench program).shelf.get? name = some n
    · obtain ⟨name, n, rfl, hget⟩ := hack
      have hlabel := named_bench program name t
      rw [hget, Option.map_some, Option.some_inj] at hlabel
      have hfits := fits_bench hget
      have hsame : ∀ {owner : Tag}, Owns (program ++ [.notify name .acked]) owner true t ↔
          Owns program owner true t := by
        intro owner
        rw [owns_concat]
        exact or_iff_left fun hlast => by cases hlast.2.1
      have htells : ∀ x, (∃ name' n', Step.notify name .acked = .notify name' .acked ∧
          (bench program).shelf.get? name' = some n' ∧ (x, Delivery.acked) ∈ n'.notify .acked) ↔
          (x, .acked) ∈ n.notify .acked := by
        intro x
        constructor
        · rintro ⟨name', n', hs, hget', hmem⟩
          cases hs
          cases hget.symm.trans hget'
          exact hmem
        · exact fun hmem => ⟨name, n, rfl, hget, hmem⟩
      have hhead : t = n.label ↔ Step.notify name .acked = .notify t.name .acked ∧
          Named program t := by
        rw [eq_comm, hlabel]
        simp [eq_comm]
      rw [htells, acked_notify_iff hfits, ← hhead]
      simp only [htells, hsame, and_or_left, exists_or]
      exact or_or_or_comm
    · have hnone : ∀ x, ¬ ∃ name n, s = .notify name .acked ∧
          (bench program).shelf.get? name = some n ∧ (x, Delivery.acked) ∈ n.notify .acked := by
        rintro x ⟨name, n, hs, hget, -⟩
        exact hack ⟨name, n, hs, hget⟩
      have hmiss : ¬ (s = .notify t.name .acked ∧ Named program t) := by
        rintro ⟨hs, hnamed⟩
        have hget := (named_bench program t.name t).mpr ⟨rfl, hnamed⟩
        obtain ⟨n, hn, -⟩ := Option.map_eq_some_iff.mp hget
        exact hack ⟨t.name, n, hs, hn⟩
      simp only [hnone, hmiss, or_false]
      refine or_congr_right (exists_congr fun owner => ?_)
      exact and_congr_left fun hmem => (hearly hmem).symm

theorem acked_told (program : List Step) (t : Tag) :
    (t, .acked) ∈ told program ↔ (t, .acked) ∈ (bench program).told := by
  unfold told
  rw [List.mem_append, or_iff_left]
  intro hmem
  obtain ⟨e, -, he⟩ := List.mem_flatMap.mp hmem
  exact e.2.acked_notmem_drop t he

/-- Whatever is done at a desk, the callback of each notifier runs once, or never if the notifier
itself was defused. It runs acked if the notifier was told so itself, or by a callback that forwards
and ran acked, and lost in all other cases. This is what the lines of the desk say; the cascades
behind it end, and tell no more and no less. -/
theorem callbacks_run_once (program : List Step) :
    (∀ t, Created program t → ¬ Defused program t →
      ∃ d, (told program).filter (fun x => x.1 = t) = [(t, d)] ∧
        (d = .acked ↔ Notified program t .acked ∨
          ∃ owner, Owns program owner true t ∧ (owner, .acked) ∈ told program)) ∧
    (∀ t d, (t, d) ∈ told program → Created program t ∧ ¬ Defused program t) ∧
    (log program).filterMap Line.told? = (told program).map (Prod.map Tag.name id) ∧
    (∀ n : Notifier Tag,
      (∀ d, (Duty.notify (some n.callback) d).Tells (n.notify d)) ∧
      (Duty.drop (some n.callback)).Tells n.drop ∧
      (Duty.defuse (some n.callback)).Tells n.defuse) ∧
    ∀ c : Cascade Tag, ∃ all, Cascade.Steps c ⟨[], all⟩ := by
  refine ⟨?_, fun t d h => ⟨created_of_told h, not_defused_of_told h⟩, log_eq program,
    fun n => ⟨n.tells_notify, n.tells_drop, n.tells_defuse⟩, Cascade.ends⟩
  intro t hcreated hkept
  obtain ⟨d, hd⟩ := told_once hcreated hkept
  refine ⟨d, hd, ?_⟩
  have hack : d = .acked ↔ (t, .acked) ∈ told program := by
    constructor
    · rintro rfl
      exact List.mem_of_mem_filter (hd ▸ List.mem_singleton_self _)
    · intro hmem
      have hin : (t, Delivery.acked) ∈ (told program).filter fun x => x.1 = t :=
        List.mem_filter.mpr ⟨hmem, decide_eq_true rfl⟩
      rw [hd, List.mem_singleton, Prod.mk.injEq] at hin
      exact hin.2.symm
  rw [hack, acked_told, acked_bench]
  simp only [acked_told]

/-- An ack that reaches a notifier through its owner. Its name was given again, and the second of
that name is defused. -/
theorem ack_through_owner :
    let program : List Step := [.create "a", .createOwning "b" "a" true, .create "a",
      .notify "b" .acked, .defuse "a", .create "c"]
    let t : Tag := ⟨0, "a"⟩
    told program = [(⟨1, "b"⟩, .acked), (t, .acked), (⟨5, "c"⟩, .lost)] ∧
      ∃ d, (told program).filter (fun x => x.1 = t) = [(t, d)] ∧
        (d = .acked ↔ Notified program t .acked ∨
          ∃ owner, Owns program owner true t ∧ (owner, .acked) ∈ told program) := by
  intro program t
  have htold : told program = [(⟨1, "b"⟩, .acked), (t, .acked), (⟨5, "c"⟩, .lost)] := by
    decide +kernel
  have hcreated : Created program t := ⟨.create "a", rfl, rfl⟩
  have hkept : ¬ Defused program t := not_defused_of_told (d := .acked) (by simp [htold])
  exact ⟨htold, (callbacks_run_once program).1 t hcreated hkept⟩

end Desk

end MediaMux
