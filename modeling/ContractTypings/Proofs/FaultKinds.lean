import ContractTypings.Proofs.MissingAbi
import ContractTypings.Proofs.SteadyArtifact

/-!
Which texts are refused for their shape and which as no JSON. The first fault in the text decides: a
text is refused for its shape if it has gone wrong in a beginning that a document can have, whatever
comes after it.
-/

namespace ContractTypings

open Json Decoder

namespace Json.Document

theorem begins_append (ts : List Token) (token : Token) :
    (ofTokens ts).tree.Begins (ofTokens (ts ++ [token])).tree := by
  rw [tree_ofTokens, tree_ofTokens, List.foldl_append]
  exact Reading.begins_step _ token

end Json.Document

namespace Artifact

def IsDocument (text : String) : Prop := ∃ v, loaded.run text = .ok v

/-- Some beginning of the text, which is a beginning of a JSON value, is of a wrong shape whatever
follows it. -/
def RefusedEarly (text : String) (m : Mismatch) : Prop :=
  ∃ beginning, beginning <+: tokens text.toList ∧
    (∃ rest, (Document.ofTokens (beginning ++ rest)).isWhole = true) ∧
    ∀ rest, decoder .text maxNesting (Document.ofTokens (beginning ++ rest)).tree =
      .error (.mismatch m)

def readInMemory (text : String) : Except Fault Artifact :=
  decoder .value maxNesting (Document.ofText text).tree

/-- In memory an array is too long for the record it is to be, and that is not what is said of the
text. -/
def HasSurplus (text : String) : Prop :=
  ∃ n, readInMemory text = .error (.mismatch (.tooLong n)) ∧ read text ≠ readInMemory text

variable {text : String} {m : Mismatch}

theorem read_eq_mismatch_iff : read text = .error (.mismatch m) ↔
    decoder .text maxNesting (Document.ofText text).tree = .error (.mismatch m) := by
  rw [read, run]
  cases decoder .text maxNesting (Document.ofText text).tree with
  | error fault => exact Iff.rfl
  | ok a =>
    constructor
    · intro h
      change (if _ then _ else _) = _ at h
      split at h <;> cases h
    · intro h
      cases h

theorem decoder_append {ts : List Token}
    (h : decoder .text maxNesting (Document.ofTokens ts).tree = .error (.mismatch m))
    (rest : List Token) :
    decoder .text maxNesting (Document.ofTokens (ts ++ rest)).tree = .error (.mismatch m) := by
  induction rest generalizing ts with
  | nil => rwa [List.append_nil]
  | cons token rest ih =>
    have hstands : Stands (decoder .text maxNesting (Document.ofTokens ts).tree)
        (decoder .text maxNesting (Document.ofTokens (ts ++ [token])).tree) :=
      stands_decoder (Document.begins_append ts token)
    rw [h] at hstands
    rw [List.append_cons]
    exact ih hstands.eq_of_mismatch

theorem read_eq_mismatch_iff_refusedEarly :
    read text = .error (.mismatch m) ↔ RefusedEarly text m := by
  rw [read_eq_mismatch_iff]
  constructor
  · intro h
    obtain ⟨beginning, hprefix, htree, hwhole⟩ := Document.exists_beginning (tokens text.toList)
    refine ⟨beginning, hprefix, hwhole, decoder_append ?_⟩
    rw [htree]
    exact h
  · rintro ⟨beginning, ⟨rest, hrest⟩, -, h⟩
    rw [Document.ofText, ← hrest]
    exact h rest

theorem read_eq_malformed_iff_hasSurplus (h : IsDocument text) :
    read text = .error .malformed ↔ HasSurplus text := by
  obtain ⟨v, hv⟩ := h
  obtain ⟨t, hdocument, hl⟩ := document_of_loaded hv
  have hread : read text = decoder .text maxNesting t := run_of_ended hdocument
  have hmemory : readInMemory text = decoder .value maxNesting t := by
    rw [readInMemory, hdocument]
  have hagree := agree_decoder hl
  rw [HasSurplus, hread, hmemory]
  generalize decoder .text maxNesting t = x at hagree ⊢
  generalize decoder .value maxNesting t = y at hagree ⊢
  cases hagree with
  | ok a => exact ⟨nofun, fun ⟨_, h, _⟩ => nomatch h⟩
  | mismatch m => exact ⟨nofun, fun ⟨_, _, h⟩ => absurd rfl h⟩
  | surplus n => exact ⟨fun _ => ⟨n, rfl, nofun⟩, fun _ => rfl⟩

theorem read_eq_malformed_iff {fault : Fault} (h : read text = .error fault) :
    read text = .error .malformed ↔ ∀ m, ¬ read text = .error (.mismatch m) := by
  rw [h]
  cases fault with
  | malformed => exact ⟨fun _ _ => nofun, fun _ => rfl⟩
  | mismatch m => exact ⟨nofun, fun h => absurd rfl (h m)⟩

end Artifact

namespace Generator

open Artifact

variable {text : String} {fault : Fault}

theorem transform_of_fault (h : read text = .error fault) (g : Generator) (t : FileTree)
    (p : Path) : g.transform t p text = .error (faultIn p fault) := by
  rw [transform, transformAt, h]

theorem transform_eq_malformedArtifact_iff {m : Mismatch} (h : read text = .error fault)
    (g : Generator) (t : FileTree) (p : Path) :
    g.transform t p text = .error (.malformedArtifact p m) ↔ read text = .error (.mismatch m) := by
  rw [transform_of_fault h, h]
  cases fault <;> simp [faultIn]

theorem transform_eq_json_iff (h : read text = .error fault) (g : Generator) (t : FileTree)
    (p : Path) : g.transform t p text = .error (.json .malformed) ↔
      read text = .error .malformed := by
  rw [transform_of_fault h, h]
  cases fault <;> simp [faultIn]

/-- A text that cannot be read as an artifact: a document is refused for its shape unless it has a
surplus element, and any other text is refused as no JSON unless it has gone wrong before. -/
theorem transform_fault_kind (h : read text = .error fault) (g : Generator) (t : FileTree)
    (p : Path) :
    (IsDocument text →
      ((∃ m, g.transform t p text = .error (.malformedArtifact p m)) ↔ ¬ HasSurplus text) ∧
      (g.transform t p text = .error (.json .malformed) ↔ HasSurplus text)) ∧
    (¬ IsDocument text →
      (∀ m, g.transform t p text = .error (.malformedArtifact p m) ↔ RefusedEarly text m) ∧
      (g.transform t p text = .error (.json .malformed) ↔ ∀ m, ¬ RefusedEarly text m)) := by
  have hshape := fun m => transform_eq_malformedArtifact_iff (m := m) h g t p
  have hjson := transform_eq_json_iff h g t p
  have hkinds := read_eq_malformed_iff h
  constructor
  · intro hd
    have hsurplus := read_eq_malformed_iff_hasSurplus hd
    refine ⟨?_, hjson.trans hsurplus⟩
    rw [← hsurplus, hkinds, not_forall_not]
    exact exists_congr hshape
  · intro _
    refine ⟨fun m => (hshape m).trans read_eq_mismatch_iff_refusedEarly, hjson.trans ?_⟩
    rw [hkinds]
    exact forall_congr' fun m => not_congr read_eq_mismatch_iff_refusedEarly

def cutOffArray : String := "[5"

def longItem : String := "[[[],\"view\",\"function\",\"f\",[],false,false,false,0]]"

theorem read_cutOffArray : read cutOffArray =
    .error (.mismatch (.wrongType (.number (.natural 5)) (.record "Item"))) :=
  fault?_eq_some_iff.mp (by decide +kernel)

theorem read_longItem : read longItem = .error .malformed :=
  fault?_eq_some_iff.mp (by decide +kernel)

theorem not_isDocument_cutOffArray : ¬ IsDocument cutOffArray := by
  rintro ⟨v, hv⟩
  have hnone : loaded.run cutOffArray = .error .malformed :=
    fault?_eq_some_iff.mp (by decide +kernel)
  rw [hnone] at hv
  cases hv

theorem isDocument_longItem : IsDocument longItem := exists_value (by decide +kernel)

theorem transform_fault_kind_items :
    RefusedEarly cutOffArray (.wrongType (.number (.natural 5)) (.record "Item")) ∧
      HasSurplus longItem := by
  let g : Generator := {}
  let t : FileTree := ⟨[], []⟩
  let p : Path := ⟨"/p/A.json"⟩
  have hcut := (transform_fault_kind read_cutOffArray g t p).2 not_isDocument_cutOffArray
  have hlong := (transform_fault_kind read_longItem g t p).1 isDocument_longItem
  exact ⟨(hcut.1 _).mp (transform_of_fault read_cutOffArray g t p),
    hlong.2.mp (transform_of_fault read_longItem g t p)⟩

/-- A text that is no document is refused for its shape, and a document as no JSON. -/
theorem transform_fault_swapped :
    (¬ IsDocument cutOffArray ∧
      ∀ (g : Generator) (t : FileTree) (p : Path), g.transform t p cutOffArray =
        .error (.malformedArtifact p (.wrongType (.number (.natural 5)) (.record "Item")))) ∧
    IsDocument longItem ∧
      ∀ (g : Generator) (t : FileTree) (p : Path),
        g.transform t p longItem = .error (.json .malformed) :=
  ⟨⟨not_isDocument_cutOffArray, transform_of_fault read_cutOffArray⟩, isDocument_longItem,
    transform_of_fault read_longItem⟩

end Generator

end ContractTypings
