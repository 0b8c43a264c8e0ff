/-
**Writing in one pass is naming first and writing second.**

A renderer names identities and writes their names in one go.  The same result comes from two
passes: the first goes through the identities of the construct from left to right and names them,
the second writes the construct with the names that the identities have in the end, and needs no
environment.

Main definitions:

* `CypherQuery.Construct.written` — **the text of a construct, with names that are known**.

Main results:

* `CypherQuery.render_eq_twoPass` — **one pass has the effect and the text of two**.
-/

import CypherQuery.Proofs.Template.Construct

set_option autoImplicit false

namespace CypherQuery

/-- **The text of a construct, with names that are known.** -/
def Construct.written (ν : Naming) (c : Construct) : String := c.template.fill ν

/-- **Writing a construct in one pass is naming its identities from left to right, and then writing
it with the names that they have in the end.** -/
theorem render_eq_twoPass (c : Construct) (env : Environment) {text : String}
    (h : (c.render env).result = .ok text) :
    (∃ names, (Occurrence.nameAll c.occurrences env).result = .ok names) ∧
      (Occurrence.nameAll c.occurrences env).environment = (c.render env).environment ∧
      text = c.written (c.render env).environment.naming := by
  rw [Construct.result_render] at h
  obtain ⟨⟨names, hnames⟩, hfill⟩ := Template.run_of_ok h
  rw [Construct.occurrences_template] at hnames
  rw [Construct.environment_render]
  exact ⟨⟨names, by rw [hnames]⟩, by rw [hnames], hfill⟩

/-- A relationship from a node to itself, with properties at both ends. -/
def loopPattern : Construct :=
  let node : Variable := ⟨0, .node, none⟩
  let known : Parameter := ⟨0, none, .integer 7⟩
  let dropped : Parameter := ⟨1, none, .integer 8⟩
  .ofPattern ⟨⟨node, ["Person"], [("id", .placeholder known)], true, true⟩,
    [⟨.ofVariable ⟨1, .relationship, none⟩,
      ⟨node, [], [("id", .placeholder dropped)], true, true⟩⟩]⟩

/-- The properties at the second end are not written, and the parameter there gets no name. -/
theorem render_loopPattern_eq_twoPass :
    (loopPattern.render (.start "" .colon)).result =
        .ok "(this0:Person \x7bid: $param0\x7d)-[this1]->(this0)" ∧
      (∃ names, (Occurrence.nameAll loopPattern.occurrences (.start "" .colon)).result =
        .ok names) ∧
      (Occurrence.nameAll loopPattern.occurrences (.start "" .colon)).environment =
        (loopPattern.render (.start "" .colon)).environment ∧
      "(this0:Person \x7bid: $param0\x7d)-[this1]->(this0)" =
        loopPattern.written (loopPattern.render (.start "" .colon)).environment.naming :=
  ⟨rfl, render_eq_twoPass loopPattern (.start "" .colon) rfl⟩

end CypherQuery
