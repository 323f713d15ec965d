import LiveSheet.Proofs.Sheet.Acyclic

namespace LiveSheet

open LiveSheet.Formula
open Relation

/-! Circles of dependents.  An edge comes from a name in the text of a cell, and such a
name need not be that of a cell that the formula reads.  The formulas alone never read one
another in a circle, so a circle of dependents has a name of the other kind on it. -/

namespace Store

theorem exists_plain_key (sheet cell : String) :
    ∃ otherSheet other, '/' ∉ other.toList ∧ cellKey sheet cell = cellKey otherSheet other := by
  by_cases hslash : '/' ∈ cell.toList
  · obtain ⟨back, front, hcell, hplain⟩ :=
      List.eq_append_cons_of_mem (List.mem_reverse.mpr hslash)
    refine ⟨cellKey sheet (String.ofList front.reverse), String.ofList back.reverse, ?_, ?_⟩
    · rwa [String.toList_ofList, List.mem_reverse]
    · have hchars : cell.toList = front.reverse ++ '/' :: back.reverse := by
        rw [← List.reverse_reverse cell.toList, hcell]
        simp
      rw [← String.toList_inj]
      simp [cellKey, String.toList_append, hchars]
  · exact ⟨sheet, cell, hslash, rfl⟩

theorem Coherent.slash_not_mem_of_informs {store : Store} (h : store.Coherent)
    {sheet cell dependent : String} (hinforms : store.Informs sheet cell dependent) :
    '/' ∉ dependent.toList := by
  obtain ⟨otherSheet, other, hplain, hkey⟩ := exists_plain_key sheet cell
  have hedge : dependent ∈ (store.dependentsOf otherSheet other).toList := by
    rwa [Informs, dependentsOf, hkey] at hinforms
  obtain ⟨value, hvalue, -⟩ := mem_mentioned.mp ((h.edges hplain otherSheet dependent).mp hedge)
  exact (h.cell hvalue).2

end Store

namespace Page

/-- A formula has a name in it that is not that of a cell that it reads: the name of a
function that it calls, or a name in a locator. -/
def NamesOnly (page : Page) (cell other : String) : Prop :=
  ¬ page.Reads cell other ∧ ∃ expr name, page.expr? cell = some expr ∧
    canonical name = other ∧
    (name ∈ expr.functions ∨
      ∃ locator, .external locator ∈ expr.requests ∧ name ∈ identifiers locator)

theorem namesOnly_of_mem_references {page : Page} {cell value body id : String} {expr : Expr}
    (hvalue : page.text? cell = some value) (hbody : body? value = some body)
    (hparse : parse body = .ok expr) (hmentions : id ∈ (references cell value).toList)
    (hreads : ¬ page.Reads cell id) : page.NamesOnly cell id := by
  obtain ⟨same, hsame, -, name, hname, rfl⟩ := mem_references.mp hmentions
  cases hbody.symm.trans hsame
  have hexpr : page.expr? cell = some expr :=
    expr?_eq_some.mpr ⟨value, body, hvalue, hbody, hparse⟩
  refine ⟨hreads, expr, name, hexpr, rfl, ?_⟩
  rcases (mem_identifiers_iff hparse).mp hname with hcell | hother
  · exact absurd ⟨expr, name, hexpr, hcell, rfl⟩ hreads
  · exact hother

end Page

section

variable {engine : Engine} {store : Store} {sheet cell name dependent : String}

theorem Computed.namesOnly_or_reads (h : Computed engine store) (hstore : store.Coherent)
    (hplain : '/' ∉ name.toList) (hinforms : store.Informs sheet name dependent) :
    (engine.page store sheet).NamesOnly dependent name ∨
      (engine.page store sheet).Reads dependent name := by
  by_cases hreads : (engine.page store sheet).Reads dependent name
  · exact Or.inr hreads
  · obtain ⟨value, hvalue, hmentions⟩ :=
      Store.mem_mentioned.mp ((hstore.edges hplain sheet dependent).mp hinforms)
    obtain ⟨body, hbody, -⟩ := mem_references.mp hmentions
    obtain ⟨expr, hparse, -⟩ := h.parses hvalue (hstore.cell hvalue).1 hbody
    exact Or.inl (Page.namesOnly_of_mem_references hvalue hbody hparse hmentions hreads)

theorem Computed.reads_along (h : Computed engine store) (hstore : store.Coherent)
    (hplain : '/' ∉ name.toList)
    (hpath : TransGen (fun name dependent => store.Informs sheet name dependent ∧
      ¬ (engine.page store sheet).NamesOnly dependent name) name dependent) :
    TransGen (engine.page store sheet).Reads dependent name := by
  have hreads {name dependent : String} (hplain : '/' ∉ name.toList)
      (hedge : store.Informs sheet name dependent ∧
        ¬ (engine.page store sheet).NamesOnly dependent name) :
      (engine.page store sheet).Reads dependent name :=
    (h.namesOnly_or_reads hstore hplain hedge.1).resolve_left hedge.2
  induction hpath with
  | single hedge => exact .single (hreads hplain hedge)
  | tail hfront hedge ih =>
      -- All but the first name of a path are informed themselves.
      obtain ⟨before, -, hbefore⟩ := TransGen.tail'_iff.mp hfront
      have hmiddle := hstore.slash_not_mem_of_informs hbefore.1
      exact .head (hreads hmiddle hedge) ih

theorem Computed.namesOnly_on_circle (h : Computed engine store) (hstore : store.Coherent)
    (sheet cell : String) :
    ¬ TransGen (fun name dependent => store.Informs sheet name dependent ∧
      ¬ (engine.page store sheet).NamesOnly dependent name) cell cell := by
  intro hcircle
  obtain ⟨before, -, hbefore⟩ := TransGen.tail'_iff.mp hcircle
  have hplain := hstore.slash_not_mem_of_informs hbefore.1
  exact h.acyclic sheet cell (h.reads_along hstore hplain hcircle)

end

namespace Write

/-- After any run of writes, every circle of dependents has an edge on it from a cell that
the formula on its other end does not read, but has for a function or in a locator. -/
theorem namesOnly_on_every_circle {engine : Engine} {writes : List Write}
    (hcells : ∀ write ∈ writes, isCellIdentifier write.cell = true)
    (hfetch : ∀ write ∈ writes, write.engine.fetch = engine.fetch) (sheet cell : String) :
    ¬ TransGen (fun name dependent =>
        (run writes (World.start ())).store.Informs sheet name dependent ∧
          ¬ (engine.page (run writes (World.start ())).store sheet).NamesOnly dependent name)
      cell cell := by
  obtain ⟨store, hquiet, hcoherent, hcomputed⟩ := run_computed hcells hfetch
  rw [hquiet.store]
  exact hcomputed.namesOnly_on_circle hcoherent sheet cell

def namesakeEngine : Engine where
  fetch := Fetch.ofTable (Table.empty.insert "h" (.ok "1"))
  token := 0

/-- A cell that is called like a function, and one that is called like a locator. -/
def namesakes : List Write :=
  [("a", "=SUM(1)"), ("sum", "=a"), ("p", "=EXTERNAL_REF(h)"), ("h", "=p")].map
    fun (cell, value) => { engine := namesakeEngine, sheet := "s", cell, value }

theorem valid_namesakes :
    (∀ write ∈ namesakes, isCellIdentifier write.cell = true) ∧
      ∀ write ∈ namesakes, write.engine.fetch = namesakeEngine.fetch := by
  refine ⟨by decide +kernel, fun write hwrite => ?_⟩
  obtain ⟨entry, -, rfl⟩ := List.mem_map.mp hwrite
  rfl

theorem informs_namesakes :
    TransGen ((run namesakes (World.start ())).store.Informs "s") "a" "a" ∧
      TransGen ((run namesakes (World.start ())).store.Informs "s") "h" "h" := by
  have hedges : ∀ edge ∈ [("a", "sum"), ("sum", "a"), ("h", "p"), ("p", "h")],
      (run namesakes (World.start ())).store.Informs "s" edge.1 edge.2 := by
    unfold Store.Informs
    decide +kernel
  simp only [List.forall_mem_cons] at hedges
  obtain ⟨hsum, ha, hp, hh, -⟩ := hedges
  exact ⟨.tail (.single hsum) ha, .tail (.single hp) hh⟩

theorem namesOnly_on_every_circle_namesakes :
    ((∀ write ∈ namesakes, isCellIdentifier write.cell = true) ∧
      ∀ write ∈ namesakes, write.engine.fetch = namesakeEngine.fetch) ∧
    (TransGen ((run namesakes (World.start ())).store.Informs "s") "a" "a" ∧
      TransGen ((run namesakes (World.start ())).store.Informs "s") "h" "h") ∧
    ∀ cell, ¬ TransGen (fun name dependent =>
        (run namesakes (World.start ())).store.Informs "s" name dependent ∧
          ¬ (namesakeEngine.page (run namesakes (World.start ())).store "s").NamesOnly
            dependent name)
      cell cell :=
  ⟨valid_namesakes, informs_namesakes,
    fun cell => namesOnly_on_every_circle valid_namesakes.1 valid_namesakes.2 "s" cell⟩

/-- Writes one after another can close a circle of dependents, through the name of a
function as well as through one in a locator. -/
theorem circle_of_serial_writes :
    ¬ ∀ (engine : Engine) (writes : List Write),
      (∀ write ∈ writes, isCellIdentifier write.cell = true) →
      (∀ write ∈ writes, write.engine.fetch = engine.fetch) →
      ∀ sheet cell,
        ¬ TransGen ((run writes (World.start ())).store.Informs sheet) cell cell :=
  fun h => h namesakeEngine namesakes valid_namesakes.1 valid_namesakes.2 "s" "a"
    informs_namesakes.1

end Write

end LiveSheet
