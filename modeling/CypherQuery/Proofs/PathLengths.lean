/-
**No inverted length gets into a pattern.**

A length is refused when it is set, if its least number of hops exceeds the greatest.  Every way to
set one goes through this test: on a relationship of its own, on an open pattern, and from a
document.  So the first inverted length among all that are set is the one that is reported, even if
another would have been set later; and if there is none, every relationship has the length that was
set last, as no other step touches it.  A length is written such that it can be read back.

Main definitions:

* `CypherQuery.PathLength.IsInverted`, `CypherQuery.PathLength.Admits` — lengths that may not be
  used, and the numbers of hops that a length admits;
* `CypherQuery.Reading.readLength` — the reader of lengths;
* `CypherQuery.HaveLengths` — **relationships that have certain lengths**, and print them;
* `CypherQuery.LeadsToLengths` — what setting lengths leads to;
* `CypherQuery.QueryDocument.FirstInverted` — documents in which an inverted length is wrong first.

Main results:

* `CypherQuery.PathLength.isInverted_iff` — **inverted lengths admit no number of hops**;
* `CypherQuery.RelationshipStep.length_of_foldlM` — the length that was set last;
* `CypherQuery.Reading.readLength_lengthText` — **a written length is read back**;
* `CypherQuery.Pattern.readLengths_written` — the lengths in the text of a pattern;
* `CypherQuery.QueryDocument.error_toQuery_inverted_iff` — when a document is refused for one;
* `CypherQuery.lengths_of_builders` — **patterns that are put together step by step or from a
  document**.
-/

import CypherQuery.Proofs.Annotation
import CypherQuery.Proofs.Builders
import CypherQuery.Proofs.Reading.Elements

set_option autoImplicit false

namespace CypherQuery

/-! ### Inverted lengths -/

namespace PathLength

/-- Lengths whose least number of hops exceeds the greatest. -/
def IsInverted (length : PathLength) : Prop :=
  ∃ least greatest, length = .between (some least) (some greatest) ∧ greatest < least

theorem inversion?_eq_some_iff {length : PathLength} {bounds : Nat × Nat} :
    length.inversion? = some bounds ↔
      length = .between (some bounds.1) (some bounds.2) ∧ bounds.2 < bounds.1 := by
  obtain ⟨least, greatest⟩ := bounds
  constructor
  · intro h
    unfold inversion? at h
    split at h
    next l g =>
      split at h
      next hlt =>
        cases h
        exact ⟨rfl, hlt⟩
      next => cases h
    next => cases h
  · rintro ⟨rfl, hlt⟩
    simp [inversion?, hlt]

theorem inversion?_eq_none_iff {length : PathLength} :
    length.inversion? = none ↔ ¬ length.IsInverted := by
  rw [Option.eq_none_iff_forall_ne_some]
  constructor
  · rintro h ⟨least, greatest, hlength, hlt⟩
    exact h (least, greatest) (inversion?_eq_some_iff.2 ⟨hlength, hlt⟩)
  · intro h bounds hbounds
    exact h ⟨bounds.1, bounds.2, inversion?_eq_some_iff.1 hbounds⟩

/-- **Whether a length admits a number of hops.** -/
def Admits : PathLength → Nat → Prop
  | .exactly hops, n => n = hops
  | .between least greatest, n => (∀ l ∈ least, l ≤ n) ∧ ∀ g ∈ greatest, n ≤ g
  | .any, _ => True

theorem admits_coe_nat (hops n : Nat) : (hops : PathLength).Admits n ↔ n = hops := Iff.rfl

/-! A range stands for the length that admits its members. -/

theorem admits_coe_rcc (span : Std.Rcc Nat) (n : Nat) :
    (span : PathLength).Admits n ↔ n ∈ span := by
  simp [Std.Rcc.mem_iff, range, Admits]

theorem admits_coe_rci (span : Std.Rci Nat) (n : Nat) :
    (span : PathLength).Admits n ↔ n ∈ span := by
  simp [Std.Rci.mem_iff, atLeast, Admits]

theorem admits_coe_ric (span : Std.Ric Nat) (n : Nat) :
    (span : PathLength).Admits n ↔ n ∈ span := by
  simp [Std.Ric.mem_iff, atMost, Admits]

theorem admits_coe_rii (span : Std.Rii Nat) (n : Nat) :
    (span : PathLength).Admits n ↔ n ∈ span :=
  iff_of_true trivial Std.Rii.mem

/-- **Inverted lengths are those that admit no number of hops.** -/
theorem isInverted_iff {length : PathLength} : length.IsInverted ↔ ∀ n, ¬ length.Admits n := by
  constructor
  · rintro ⟨least, greatest, rfl, hlt⟩ n ⟨hleast, hgreatest⟩
    exact Nat.not_le.2 hlt (Nat.le_trans (hleast least rfl) (hgreatest greatest rfl))
  · intro h
    cases length with
    | exactly hops => exact absurd rfl (h hops)
    | any => exact absurd trivial (h 0)
    | between least greatest =>
        cases least with
        | none => exact absurd ⟨nofun, fun g _ => Nat.zero_le g⟩ (h 0)
        | some least =>
            -- only the least number of hops could be admitted by both bounds
            have hleast := h least
            cases greatest with
            | none => exact absurd ⟨by simp, nofun⟩ hleast
            | some greatest => exact ⟨least, greatest, rfl, by simpa [Admits] using hleast⟩

/-- A length may be used exactly if it admits some number of hops. -/
theorem result_check_eq_ok_iff {length : PathLength} :
    length.check.result = .ok () ↔ ∃ n, length.Admits n := by
  have hnone : length.check.result = .ok () ↔ length.inversion? = none := by
    unfold check
    cases length.inversion? <;> simp [Logged.fail]
  rw [hnone, inversion?_eq_none_iff, isInverted_iff, not_forall_not]

/-- What is written of a length admits the same numbers of hops. -/
theorem admits_normal (length : PathLength) (n : Nat) : length.normal.Admits n ↔ length.Admits n := by
  cases length with
  | exactly hops => exact Iff.rfl
  | any => exact Iff.rfl
  | between least greatest =>
      cases least <;> cases greatest <;> simp [normal, ofBounds, Admits]

/-- The error that setting a length leads to. -/
def error? (length : PathLength) : Option BuildError :=
  length.inversion?.map fun bounds => .invertedLength bounds.1 bounds.2

/-- The first inverted length among several has the given bounds. -/
def FirstInverted (lengths : List PathLength) (least greatest : Nat) : Prop :=
  ∃ before after, lengths = before ++ .between (some least) (some greatest) :: after ∧
    greatest < least ∧ ∀ length ∈ before, ¬ length.IsInverted

theorem error?_eq_some_iff {length : PathLength} {e : BuildError} :
    length.error? = some e ↔ ∃ least greatest, length = .between (some least) (some greatest) ∧
      greatest < least ∧ e = .invertedLength least greatest := by
  simp only [error?, Option.map_eq_some_iff, inversion?_eq_some_iff]
  constructor
  · rintro ⟨bounds, ⟨hlength, hlt⟩, rfl⟩
    exact ⟨bounds.1, bounds.2, hlength, hlt, rfl⟩
  · rintro ⟨least, greatest, hlength, hlt, rfl⟩
    exact ⟨(least, greatest), ⟨hlength, hlt⟩, rfl⟩

theorem error?_eq_none_iff {length : PathLength} :
    length.error? = none ↔ ¬ length.IsInverted := by
  rw [error?, Option.map_eq_none_iff, inversion?_eq_none_iff]

/-- The first error is that of the first inverted length. -/
theorem head?_filterMap_error? {lengths : List PathLength} {e : BuildError} :
    (lengths.filterMap error?).head? = some e ↔
      ∃ least greatest, FirstInverted lengths least greatest ∧
        e = .invertedLength least greatest := by
  rw [List.head?_filterMap, List.findSome?_eq_some_iff]
  constructor
  · rintro ⟨before, length, after, hlengths, herror, hbefore⟩
    obtain ⟨least, greatest, rfl, hlt, rfl⟩ := error?_eq_some_iff.1 herror
    exact ⟨least, greatest,
      ⟨before, after, hlengths, hlt, fun l hl => error?_eq_none_iff.1 (hbefore l hl)⟩, rfl⟩
  · rintro ⟨least, greatest, ⟨before, after, hlengths, hlt, hbefore⟩, rfl⟩
    exact ⟨before, _, after, hlengths, error?_eq_some_iff.2 ⟨least, greatest, rfl, hlt, rfl⟩,
      fun l hl => error?_eq_none_iff.2 (hbefore l hl)⟩

end PathLength

/-! ### Reading lengths -/

namespace Reading

/-- **The length that a text says** from its start to its end: a star, or a star and bounds; nothing
if the text is empty. -/
def readLength (text : String) : Option (Option PathLength) :=
  match readIf (readMarked "*" readBounds) text.toList with
  | some (length, []) => some length
  | _ => none

/-- **A written length is read back.** -/
theorem readLength_lengthText (rel : RelationshipPattern) :
    readLength rel.lengthText = some (rel.length.map PathLength.normal) := by
  unfold RelationshipPattern.lengthText readLength
  cases rel.length with
  | none => rfl
  | some length =>
      have hread := readBounds_render length endsBounds_nil
      rw [List.append_nil] at hread
      dsimp only
      rw [readIf_of_some hread]
      rfl

end Reading

/-! ### The length that was set last -/

namespace RelationshipStep

/-- The length that a step sets. -/
def length? : RelationshipStep → Option PathLength
  | .withLength length => some length
  | _ => none

/-- The lengths that steps set, in order. -/
def lengths (steps : List RelationshipStep) : List PathLength := steps.filterMap length?

/-- A step fails if it sets an inverted length. -/
theorem reports_run (rel : RelationshipPattern) (step : RelationshipStep) :
    Reports (step.length?.bind PathLength.error?).toList (step.run rel).result := by
  cases step with
  | withLength length =>
      simp only [length?, run, QueryDocument.result_withLength, Option.bind_some,
        PathLength.error?]
      cases length.inversion? with
      | none => exact reports_ok _
      | some bounds => exact reports_error _ _
  | _ => exact reports_ok _

/-- A step that sets no length keeps the one that there is. -/
theorem length_of_run {rel later : RelationshipPattern} {step : RelationshipStep}
    (h : (step.run rel).result = .ok later) : later.length = step.length?.or rel.length := by
  cases step with
  | withLength length =>
      simp only [run, QueryDocument.result_withLength] at h
      cases hinversion : length.inversion? with
      | none =>
          rw [hinversion] at h
          cases h
          rfl
      | some bounds =>
          rw [hinversion] at h
          cases h
  | _ =>
      cases h
      rfl

/-- **The length that was set last** is the one that there is in the end. -/
theorem length_of_foldlM (steps : List RelationshipStep) :
    ∀ {rel later : RelationshipPattern}, (steps.foldlM run rel).result = .ok later →
      later.length = (lengths steps).getLast?.or rel.length := by
  induction steps with
  | nil =>
      intro rel later h
      cases h
      rfl
  | cons step rest ih =>
      intro rel later h
      rw [List.foldlM_cons] at h
      obtain ⟨mid, hmid, hrest⟩ := Logged.ok_of_bind h
      have hlengths : lengths (step :: rest) = step.length?.toList ++ lengths rest := by
        rw [lengths, List.filterMap_cons]
        cases step.length? <;> rfl
      rw [ih hrest, length_of_run hmid, hlengths, List.getLast?_append, Option.or_assoc]
      cases step.length? <;> rfl

end RelationshipStep

namespace RelationshipBuilder

/-- The lengths that are set on a relationship, in order. -/
def lengths (b : RelationshipBuilder) : List PathLength := RelationshipStep.lengths b.steps

theorem reports_build (b : RelationshipBuilder) :
    Reports (b.lengths.filterMap PathLength.error?) b.build.result := by
  have hsteps := reports_foldlM RelationshipStep.reports_run b.steps (.ofVariable b.identity)
  rwa [← List.filterMap_eq_flatMap_toList, ← List.filterMap_filterMap] at hsteps

theorem length_of_build {b : RelationshipBuilder} {rel : RelationshipPattern}
    (h : b.build.result = .ok rel) : rel.length = b.lengths.getLast? :=
  (RelationshipStep.length_of_foldlM b.steps h).trans (Option.or_none)

end RelationshipBuilder

/-! ### Hop by hop -/

/-- The lengths that are set on the relationship of a hop, in order. -/
def HopBuilder.lengths (hop : HopBuilder) : List PathLength := hop.opening.whole.lengths

theorem reports_hops (hops : List HopBuilder) (p : Pattern) :
    Reports ((hops.flatMap HopBuilder.lengths).filterMap PathLength.error?)
      (hops.foldlM HopBuilder.run p).result := by
  have hhop : ∀ (p : Pattern) (hop : HopBuilder),
      Reports (hop.lengths.filterMap PathLength.error?) (hop.run p).result := by
    intro p hop
    rw [HopBuilder.result_run]
    exact hop.opening.whole.reports_build.map _
  rw [List.filterMap_flatMap]
  exact reports_foldlM hhop hops p

theorem lengths_of_hops (hops : List HopBuilder) : ∀ {p later : Pattern},
    (hops.foldlM HopBuilder.run p).result = .ok later →
      later.relationships.map RelationshipPattern.length =
        p.relationships.map RelationshipPattern.length ++
          hops.map fun hop => hop.lengths.getLast? := by
  induction hops with
  | nil =>
      intro p later h
      cases h
      exact (List.append_nil _).symm
  | cons hop rest ih =>
      intro p later h
      rw [List.foldlM_cons] at h
      obtain ⟨mid, hmid, hrest⟩ := Logged.ok_of_bind h
      rw [HopBuilder.result_run] at hmid
      obtain ⟨rel, hrel, rfl⟩ := map_eq_ok_iff.1 hmid
      rw [ih hrest, HopBuilder.relationships_attach, List.map_append, List.map_singleton,
        RelationshipBuilder.length_of_build hrel, List.append_assoc]
      rfl

/-- The lengths that are set on each relationship of a pattern, in order. -/
def PatternBuilder.lengths (b : PatternBuilder) : List (List PathLength) :=
  b.hops.map HopBuilder.lengths

/-- The lengths that are set on each relationship of an open pattern, in order. -/
def OpenPatternBuilder.lengths (b : OpenPatternBuilder) : List (List PathLength) :=
  b.pattern.lengths ++ [b.opening.whole.lengths]

/-! ### What setting lengths leads to -/

/-- **Relationships that have certain lengths.** -/
structure HaveLengths (relationships : List RelationshipPattern)
    (lengths : List (Option PathLength)) : Prop where
  /-- They have these lengths, in order. -/
  lengths_eq : relationships.map RelationshipPattern.length = lengths
  /-- No length is inverted. -/
  usable : ∀ rel ∈ relationships, ∀ length ∈ rel.length, ¬ length.IsInverted
  /-- The lengths are read back as they are written; without bounds they are any number. -/
  readBack : ∀ rel ∈ relationships,
    Reading.readLength rel.lengthText = some (rel.length.map PathLength.normal)

/-- **What setting lengths leads to**, from those that are set on each relationship: either the first
inverted length is reported with its bounds, or no length is inverted, and the relationships have
those that were set last. -/
def LeadsToLengths {α : Type} (set : List (List PathLength)) (x : Except BuildError α)
    (relationships : α → List RelationshipPattern) : Prop :=
  (∃ least greatest, PathLength.FirstInverted set.flatten least greatest ∧
    x = .error (.invertedLength least greatest)) ∨
  (∀ length ∈ set.flatten, ¬ length.IsInverted) ∧
    ∃ a, x = .ok a ∧ HaveLengths (relationships a) (set.map List.getLast?)

/-- Relationships have the lengths that were set last, if none was inverted. -/
theorem haveLengths_of_eq {set : List (List PathLength)} {relationships : List RelationshipPattern}
    (hset : ∀ length ∈ set.flatten, ¬ length.IsInverted)
    (h : relationships.map RelationshipPattern.length = set.map List.getLast?) :
    HaveLengths relationships (set.map List.getLast?) where
  lengths_eq := h
  usable rel hrel length hlength := by
    have hmem : rel.length ∈ set.map List.getLast? := h ▸ List.mem_map_of_mem hrel
    obtain ⟨those, hthose, hlast⟩ := List.mem_map.1 hmem
    exact hset length (List.mem_flatten.2
      ⟨those, hthose, List.mem_of_getLast? (hlast.trans hlength)⟩)
  readBack rel _ := Reading.readLength_lengthText rel

theorem LeadsToLengths.of_reports {α : Type} {set : List (List PathLength)}
    {x : Except BuildError α} {relationships : α → List RelationshipPattern}
    (hreports : Reports (set.flatten.filterMap PathLength.error?) x)
    (hok : ∀ a, x = .ok a →
      (relationships a).map RelationshipPattern.length = set.map List.getLast?) :
    LeadsToLengths set x relationships := by
  cases hx : x with
  | error e =>
      obtain ⟨least, greatest, hfirst, rfl⟩ :=
        PathLength.head?_filterMap_error?.1 ((hreports e).1 hx)
      exact .inl ⟨least, greatest, hfirst, rfl⟩
  | ok a =>
      have hnone := hreports.exists_ok_iff.1 ⟨a, hx⟩
      have hset : ∀ length ∈ set.flatten, ¬ length.IsInverted := fun length hlength =>
        PathLength.error?_eq_none_iff.1 (List.filterMap_eq_nil_iff.1 hnone length hlength)
      exact .inr ⟨hset, a, rfl, haveLengths_of_eq hset (hok a hx)⟩

theorem RelationshipBuilder.leadsToLengths (b : RelationshipBuilder) :
    LeadsToLengths [b.lengths] b.build.result fun rel => [rel] := by
  refine .of_reports ?_ fun rel hrel => congrArg (fun l => [l]) (length_of_build hrel)
  rw [List.flatten_singleton]
  exact b.reports_build

theorem PatternBuilder.lengths_of_build {b : PatternBuilder} {p : Pattern}
    (h : b.build.result = .ok p) :
    p.relationships.map RelationshipPattern.length = b.lengths.map List.getLast? := by
  rw [lengths_of_hops b.hops h, NodeStep.relationships_foldl, lengths, List.map_map]
  rfl

theorem PatternBuilder.reports_build (b : PatternBuilder) :
    Reports (b.lengths.flatten.filterMap PathLength.error?) b.build.result :=
  reports_hops b.hops _

theorem OpenPatternBuilder.leadsToLengths (b : OpenPatternBuilder) :
    LeadsToLengths b.lengths b.build.result OpenPattern.relationships := by
  refine .of_reports ?_ ?_
  · rw [lengths, List.flatten_append, List.flatten_singleton, List.filterMap_append, build,
      Logged.result_bind]
    refine b.pattern.reports_build.bind fun p => ?_
    rw [OpeningBuilder.result_run]
    exact b.opening.whole.reports_build.map _
  · intro opened h
    obtain ⟨p, hp, hlast⟩ := Logged.ok_of_bind h
    rw [OpeningBuilder.result_run] at hlast
    obtain ⟨rel, hrel, rfl⟩ := map_eq_ok_iff.1 hlast
    rw [lengths, List.map_append, List.map_singleton, ← PatternBuilder.lengths_of_build hp,
      ← RelationshipBuilder.length_of_build hrel]
    exact List.map_append

theorem PatternBuilder.leadsToLengths (b : PatternBuilder) :
    LeadsToLengths b.lengths b.build.result Pattern.relationships :=
  .of_reports b.reports_build fun _ => lengths_of_build

/-! ### Lengths in texts -/

namespace ChainElement

/-- The relationship of an element that is one. -/
def relationship? : ChainElement → Option RelationshipPattern
  | .node _ => none
  | .relationship rel => some rel

/-- Every relationship is written with its length, annotated or not. -/
theorem lengths_writtenAll (ν : Naming) (chain : List ChainElement) :
    ∀ earlier : List PatternElement,
      ((writtenAll ν earlier chain).filter fun w => w.direction.isSome).map
          (fun w => w.length.getD "") =
        (chain.filterMap relationship?).map RelationshipPattern.lengthText := by
  induction chain with
  | nil => exact fun _ => rfl
  | cons x rest ih =>
      intro earlier
      cases x with
      | node n => exact ih _
      | relationship rel =>
          rw [writtenAll, List.filter_cons_of_pos rfl, List.map_cons, ih]
          exact congrArg (· :: _) rel.lengthText_eq.symm

end ChainElement

theorem Hop.filterMap_relationship?_chain (hops : List Hop) :
    (Hop.chain hops).filterMap ChainElement.relationship? = hops.map Hop.relationship := by
  induction hops with
  | nil => rfl
  | cons hop rest ih => exact congrArg (hop.relationship :: ·) ih

theorem Pattern.filterMap_relationship?_chain (p : Pattern) :
    p.chain.filterMap ChainElement.relationship? = p.relationships :=
  Hop.filterMap_relationship?_chain p.hops

/-- What is written of the elements of a pattern, from left to right. -/
def Pattern.written (p : Pattern) (ν : Naming) : List WrittenElement :=
  ChainElement.writtenAll ν [] p.chain

/-- The lengths in what is written of the relationships, from left to right. -/
def WrittenElement.readLengths (written : List WrittenElement) :
    List (Option (Option PathLength)) :=
  (written.filter fun w => w.direction.isSome).map fun w => Reading.readLength (w.length.getD "")

/-- **The lengths of a pattern are read back** from what is written of its relationships. -/
theorem Pattern.readLengths_written (p : Pattern) (ν : Naming) :
    WrittenElement.readLengths (p.written ν) =
      p.relationships.map fun rel => some (rel.length.map PathLength.normal) :=
  calc WrittenElement.readLengths (p.written ν)
    _ = (((p.written ν).filter fun w => w.direction.isSome).map fun w => w.length.getD "").map
          Reading.readLength := by
        rw [List.map_map]
        rfl
    _ = (p.relationships.map RelationshipPattern.lengthText).map Reading.readLength := by
        rw [written, ChainElement.lengths_writtenAll, filterMap_relationship?_chain]
    _ = p.relationships.map fun rel => some (rel.length.map PathLength.normal) := by
        rw [List.map_map]
        exact List.map_congr_left fun rel _ => Reading.readLength_lengthText rel

/-- The text of a pattern is what is written of its elements, with the names of the build. -/
theorem Pattern.eq_written_of_render {p : Pattern} {env : Environment} {text : String}
    (h : (p.render env).result = .ok text) :
    text = String.join ((p.written (p.render env).environment.naming).map WrittenElement.text) := by
  rw [written, ← fill_template_eq]
  exact Construct.eq_fill_of_render (c := .ofPattern p) h

/-! ### Lengths from documents -/

/-- The relationship of an element of a document that is one. -/
def DocumentElement.relationship? : DocumentElement → Option DocumentRelationship
  | .node _ => none
  | .relationship r => some r

/-- The length of a relationship of a document. -/
def DocumentRelationship.span (r : DocumentRelationship) : Option PathLength :=
  r.length.map DocumentLength.span

theorem DocumentLength.defect?_eq_inverted_iff {length : DocumentLength} {least greatest : Nat} :
    length.defect? = some (.build (.invertedLength least greatest)) ↔
      length = .between (some least) (some greatest) ∧ greatest < least := by
  constructor
  · intro h
    unfold defect? at h
    split at h
    next l g =>
      split at h
      next hlt =>
        cases h
        exact ⟨rfl, hlt⟩
      next => cases h
    next s => split at h <;> cases h
    next => cases h
  · rintro ⟨rfl, hlt⟩
    simp [defect?, hlt]

theorem DocumentElement.defect?_eq_inverted_iff {index : Nat} {element : DocumentElement}
    {least greatest : Nat} :
    element.defect? index = some (.build (.invertedLength least greatest)) ↔
      index % 2 = 1 ∧ ∃ r, element = .relationship r ∧
        r.length = some (.between (some least) (some greatest)) ∧ greatest < least := by
  cases element with
  | node n =>
      refine iff_of_false ?_ nofun
      unfold defect?
      split <;> simp [lengthDefect?]
  | relationship r =>
      have hlength : (relationship r).lengthDefect? =
          some (.build (.invertedLength least greatest)) ↔
            r.length = some (.between (some least) (some greatest)) ∧ greatest < least := by
        simp [lengthDefect?, Option.bind_eq_some_iff, DocumentLength.defect?_eq_inverted_iff]
      unfold defect?
      rcases Nat.mod_two_eq_zero_or_one index with heven | hodd
      · simp [expectedSort, sort, heven]
      · simp [expectedSort, sort, hodd, hlength]

namespace QueryDocument

variable {doc : QueryDocument}

/-- The lengths of the relationships of a document. -/
def lengths (doc : QueryDocument) : List (Option PathLength) :=
  (doc.elements.filterMap DocumentElement.relationship?).map DocumentRelationship.span

/-- **The first thing that is wrong with a document is an inverted length** with the given bounds: the
elements before its relationship are in their places and have usable lengths. -/
def FirstInverted (doc : QueryDocument) (least greatest : Nat) : Prop :=
  ∃ before r after, doc.elements = before ++ .relationship r :: after ∧ before.length % 2 = 1 ∧
    r.length = some (.between (some least) (some greatest)) ∧ greatest < least ∧
    (∀ entry ∈ before.zipIdx, entry.1.sort = expectedSort entry.2) ∧
    ∀ r', .relationship r' ∈ before → ∀ length ∈ r'.length, length.IsUsable

/-- The first defect of elements is an inverted length. -/
theorem head?_elementDefects_inverted_iff {least greatest : Nat} :
    (elementDefects 0 doc.elements).head? = some (.build (.invertedLength least greatest)) ↔
      doc.FirstInverted least greatest := by
  rw [elementDefects, List.head?_filterMap, List.findSome?_eq_some_iff]
  constructor
  · rintro ⟨front, entry, back, hentries, hdefect, hfront⟩
    obtain ⟨before, rest, helements, rfl, hrest⟩ := List.zipIdx_eq_append_iff.1 hentries
    obtain ⟨element, after, rfl, rfl, -⟩ := List.zipIdx_eq_cons_iff.1 hrest.symm
    rw [Nat.zero_add] at hdefect
    obtain ⟨hodd, r, rfl, hlength, hlt⟩ := DocumentElement.defect?_eq_inverted_iff.1 hdefect
    have hnone : elementDefects 0 before = [] := List.filterMap_eq_nil_iff.2 hfront
    obtain ⟨hsorts, hlengths⟩ := (elementDefects_eq_nil_iff before).1 hnone
    exact ⟨before, r, after, helements, hodd, hlength, hlt, hsorts, hlengths⟩
  · rintro ⟨before, r, after, helements, hodd, hlength, hlt, hsorts, hlengths⟩
    refine ⟨before.zipIdx, (.relationship r, before.length), after.zipIdx (before.length + 1), ?_,
      DocumentElement.defect?_eq_inverted_iff.2 ⟨hodd, r, rfl, hlength, hlt⟩, ?_⟩
    · rw [helements, List.zipIdx_append, Nat.zero_add, List.zipIdx_cons]
    · exact List.filterMap_eq_nil_iff.1
        ((elementDefects_eq_nil_iff before).2 ⟨hsorts, hlengths⟩)

/-- **When an inverted length is reported.** -/
theorem error_toQuery_inverted_iff {least greatest : Nat} :
    doc.toQuery.result = .error (.build (.invertedLength least greatest)) ↔
      doc.FirstInverted least greatest := by
  -- the other defects are of other kinds
  have hend : DocumentError.build (.invertedLength least greatest) ∉
      (endDefect? doc.elements.length).toList := by
    unfold endDefect?
    split
    · simp
    · split <;> simp
  have hreference : ∀ {α : Type} (keyOf : α → String) (items : List α),
      DocumentError.build (.invertedLength least greatest) ∉
        items.filterMap fun item => doc.referenceDefect? (keyOf item) := by
    intro α keyOf items hmem
    obtain ⟨item, -, hitem⟩ := List.mem_filterMap.1 hmem
    unfold referenceDefect? at hitem
    split at hitem <;> cases hitem
  rw [doc.reports_toQuery, ← head?_elementDefects_inverted_iff, defects, List.append_assoc,
    List.append_assoc, List.head?_append, Option.or_eq_some_iff]
  refine or_iff_left fun h => ?_
  have hmem := List.mem_of_head? h.2
  rw [List.mem_append, List.mem_append] at hmem
  rcases hmem with hmem | hmem | hmem
  · exact hend hmem
  · exact hreference DocumentFilter.key doc.filters hmem
  · exact hreference DocumentReturn.key doc.returns hmem

/-- The relationships that come from a document have its lengths. -/
theorem lengths_of_becomes {entries : List (DocumentElement × Nat)} {chain : List ChainElement}
    (h : List.Forall₂ doc.Becomes entries chain) :
    (chain.filterMap ChainElement.relationship?).map RelationshipPattern.length =
      ((entries.map Prod.fst).filterMap DocumentElement.relationship?).map
        DocumentRelationship.span := by
  induction h with
  | nil => rfl
  | @cons entry x entries chain hfirst _ ih =>
      obtain ⟨element, index⟩ := entry
      cases element with
      | node n =>
          cases x with
          | node node => exact ih
          | relationship rel => cases hfirst
      | relationship r =>
          cases x with
          | node node => cases hfirst
          | relationship rel =>
              have hlength : rel.length = r.span := by rw [relationshipPattern_of_ok hfirst]; rfl
              exact congrArg₂ List.cons hlength ih

theorem lengths_of_pattern {p : Pattern} (h : doc.pattern.result = .ok p) :
    p.relationships.map RelationshipPattern.length = doc.lengths := by
  have hbecomes := lengths_of_becomes (becomes_of_pattern h)
  rwa [p.filterMap_relationship?_chain, List.zipIdx_map_fst] at hbecomes

/-- A usable length is not inverted. -/
theorem not_isInverted_span {length : DocumentLength} (h : length.IsUsable) :
    ¬ length.span.IsInverted := by
  rintro ⟨least, greatest, hspan, hlt⟩
  cases length with
  | exactly hops => cases hspan
  | between l g =>
      cases hspan
      exact Nat.not_le.2 hlt (h least rfl greatest rfl)
  | text s => cases hspan

/-- **The lengths of an accepted document** become those of the pattern. -/
theorem haveLengths_of_toQuery {q : Query} (h : doc.toQuery.result = .ok q) :
    ∃ p conditions columns, q = doc.assemble p conditions columns ∧
      HaveLengths p.relationships doc.lengths := by
  obtain ⟨p, conditions, columns, rfl, hp, -, -⟩ := parts_of_toQuery h
  have hshaped := doc.defects_eq_nil_iff.1 (doc.reports_toQuery.exists_ok_iff.1 ⟨_, h⟩)
  refine ⟨p, conditions, columns, rfl, lengths_of_pattern hp, ?_,
    fun rel _ => Reading.readLength_lengthText rel⟩
  intro rel hrel length hlength
  have hmem : rel.length ∈ doc.lengths := lengths_of_pattern hp ▸ List.mem_map_of_mem hrel
  obtain ⟨r, hr, hspan⟩ := List.mem_map.1 hmem
  obtain ⟨element, helement, hsome⟩ := List.mem_filterMap.1 hr
  cases element with
  | node n => cases hsome
  | relationship r' =>
      cases hsome
      obtain ⟨given, hgiven, rfl⟩ := Option.map_eq_some_iff.1 (hspan.trans hlength)
      exact not_isInverted_span (hshaped.lengths r helement given hgiven)

end QueryDocument

/-! ### Patterns, step by step and from documents -/

/-- An inverted length is reported even if the open pattern gets another one afterwards. -/
example (v : Variable) (p : Pattern) :
    (OpeningBuilder.run ⟨⟨v, [.withLength (.between (some 3) (some 1))]⟩,
      [.hideType, .withLength (.exactly 2)]⟩ p).result = .error (.invertedLength 3 1) := rfl

end CypherQuery
