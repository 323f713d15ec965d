import LiveSheet.Proofs.Http.Serving
import LiveSheet.Proofs.Sheet.Folding

namespace LiveSheet.Http

open LiveSheet.Formula
open LiveSheet.Text

def Request.list (sheet : String) : Request :=
  { method := .get, target := "/api/v1/" ++ sheet, headers := [], body := "" }

namespace Server

theorem listing_of_handle {server : Server} {request : Request} {sheetPart sheet : String}
    (hmethod : request.method = .get)
    (htarget : Route.ofTarget? request.target = some (.sheet sheetPart))
    (hsheet : Percent.decode? sheetPart = some sheet)
    (hstatus : (server.handle request).1.status = 200) :
    ∃ cells after, server.engine.getSheet sheet server.world = .ok cells after ∧
      (server.handle request).1.body = .text (SheetResponse.encode cells) := by
  rw [handle_eq htarget (.inl hmethod) (by simp [hmethod, Route.methods]), answer]
    at hstatus ⊢
  cases hanswer : getSheet sheetPart server with
  | error failure after =>
      rw [hanswer] at hstatus
      exact absurd hstatus (status_failure failure).1
  | ok response after =>
      rw [getSheet] at hanswer
      obtain ⟨decoded, first, hdecoded, hrest⟩ := exists_of_bind_ok hanswer
      obtain ⟨cells, second, hcells, hends⟩ := exists_of_bind_ok hrest
      obtain ⟨hsame, rfl⟩ := parameter_of_ok hdecoded
      cases hsheet.symm.trans hsame
      cases hends
      exact ⟨cells, _, Access.eq_endsWith (onEngine_of_ok hcells), rfl⟩

/-- Canonical ids are stable and stay valid.  However often ids are folded, requests take
them for the same; and a list of a sheet has, besides what a server began with, just the
cells that have been written, under ids that are accepted as such. -/
theorem canonical_ids_stable :
    (∀ id, canonical (canonical id) = canonical id ∧
      (isCellIdentifier id = true → isCellIdentifier (canonical id) = true)) ∧
    (∀ (engine : Engine) (sheetFolds cellFolds : Nat) (sheet cell : String),
      engine.Identifies (canonical^[sheetFolds] sheet) (canonical^[cellFolds] cell) sheet
        cell) ∧
    ∀ (server : Server) (steps : List Step) (request : Request) {sheetPart sheet : String},
      request.method = .get → Route.ofTarget? request.target = some (.sheet sheetPart) →
      Percent.decode? sheetPart = some sheet →
      ((run steps server).handle request).1.status = 200 →
      ∃ cells : SheetResponse,
        ((run steps server).handle request).1.body = .text cells.encode ∧
        ∀ id,
          (id ∈ cells.keys ↔ Written (canonical sheet) id steps server ∨
            ∃ key, server.world.store.cell? (canonical sheet) key ≠ none ∧
              canonical key = id) ∧
          (Written (canonical sheet) id steps server →
            isCellIdentifier id = true ∧ canonical id = id) := by
  refine ⟨fun id => ⟨canonical_canonical id, isCellIdentifier_canonical⟩,
    fun engine => engine.identifies_iterate, ?_⟩
  intro server steps request sheetPart sheet hmethod htarget hsheet hstatus
  obtain ⟨cells, after, hlisting, hbody⟩ := listing_of_handle hmethod htarget hsheet hstatus
  refine ⟨cells, hbody, fun id => ⟨?_, Written.accepted⟩⟩
  rw [Engine.getSheet_keys hlisting]
  simp only [run_cell?_iff]
  constructor
  · rintro ⟨key, hkept | hwritten, rfl⟩
    · exact .inr ⟨key, hkept, rfl⟩
    · rw [hwritten.accepted.2]
      exact .inl hwritten
  · rintro (hwritten | ⟨key, hkept, rfl⟩)
    · exact ⟨id, .inr hwritten, hwritten.accepted.2⟩
    · exact ⟨key, .inl hkept, rfl⟩

def capitals : List Step :=
  [.handle (Request.write "S" "%C4%B0%CE%A3" "1")]

theorem canonical_ids_stable_capitals :
    isCellIdentifier "İΣ" = true ∧ isCellIdentifier (canonical "İΣ") = true ∧
      ((run capitals (start Fetch.disabled {})).handle (Request.list "s")).1.status = 200 ∧
      ∃ cells : SheetResponse,
        ((run capitals (start Fetch.disabled {})).handle (Request.list "s")).1.body =
          .text cells.encode ∧
        "i\u0307ς" ∈ cells.keys ∧ isCellIdentifier "i\u0307ς" = true := by
  have hid : isCellIdentifier "İΣ" = true := by decide +kernel
  have htarget : Route.ofTarget? (Request.list "s").target = some (.sheet "s") := by decide
  have hstatus :
      ((run capitals (start Fetch.disabled {})).handle (Request.list "s")).1.status = 200 := by
    decide +kernel
  have hwritten : Written (canonical "s") "i\u0307ς" capitals (start Fetch.disabled {}) := by
    have hposts : (Request.write "S" "%C4%B0%CE%A3" "1").Posts "S" "İΣ" :=
      @Request.Posts.mk _ _ _ "S" "%C4%B0%CE%A3" rfl (by decide +kernel) (by decide +kernel)
        (by decide +kernel)
    exact .now ⟨"S", "İΣ", hposts, by decide +kernel, by decide +kernel, by decide +kernel⟩
  obtain ⟨hstable, -, hlistings⟩ := canonical_ids_stable
  obtain ⟨cells, hbody, hkeys⟩ := hlistings _ capitals (Request.list "s") rfl htarget
    (by decide : Percent.decode? "s" = some "s") hstatus
  exact ⟨hid, (hstable "İΣ").2 hid, hstatus, cells, hbody, (hkeys _).1.mpr (.inl hwritten),
    ((hkeys _).2 hwritten).1⟩

end Server

end LiveSheet.Http
