import ContractTypings.Proofs.Loading
import ContractTypings.Proofs.NestedText

namespace ContractTypings.Json

structure MemberText where
  key : String
  keyText : String
  valueText : String
  tokens_keyText : tokens keyText.toList = [.string (some key)]
  isWhole_valueText : (Document.ofText valueText).isWhole = true

namespace MemberText

def text (m : MemberText) : String := m.keyText ++ ":" ++ m.valueText

def tree (m : MemberText) : Tree := (Document.ofText m.valueText).tree

end MemberText

def objectText (members : List MemberText) : String :=
  "\x7b" ++ ",".intercalate (members.map MemberText.text) ++ "\x7d"

theorem foldl_value {text : String} (h : (Document.ofText text).isWhole = true)
    (frames : List Frame) {rest : List Char} (hr : Bounds rest) :
    (tokens (text.toList ++ rest)).foldl Reading.step (.atValue frames false) =
      (tokens rest).foldl Reading.step (.afterValue frames (Document.ofText text).tree) := by
  have hfold := Document.foldl_of_isWhole h
  have hunder := Reading.foldl_under frames hfold
  rw [tokens_append (Reading.broken_not_mem hfold) (.inr hr), List.foldl_append]
  exact congrArg ((tokens rest).foldl Reading.step) hunder

theorem foldl_memberText (m : MemberText) (frames : List Frame)
    (done : List (Option String × Tree)) (first : Bool) {rest : List Char} (hr : Bounds rest) :
    (tokens (m.text.toList ++ rest)).foldl Reading.step (.atKey frames done first) =
      (tokens rest).foldl Reading.step
        (.afterValue (.object done (some m.key) :: frames) m.tree) := by
  have hchars : m.text.toList ++ rest =
      m.keyText.toList ++ ':' :: (m.valueText.toList ++ rest) := by
    simp [MemberText.text]
  have hb : .broken ∉ tokens m.keyText.toList := by simp [m.tokens_keyText]
  have hcolon : Bounds (':' :: (m.valueText.toList ++ rest)) := bounds_cons (by decide)
  rw [hchars, tokens_append hb (.inr hcolon), m.tokens_keyText, tokens_colon]
  exact foldl_value m.isWhole_valueText _ hr

theorem foldl_memberTexts (m : MemberText) (ms : List MemberText)
    (done : List (Option String × Tree)) (first : Bool) :
    (tokens ((",".intercalate ((m :: ms).map MemberText.text)).toList ++ ['\x7d'])).foldl
        Reading.step (.atKey [] done first) =
      .afterValue [] (.object (Members.prepend done
        (.ofList ((m :: ms).map fun m => (m.key, m.tree))))) := by
  induction ms generalizing m done first with
  | nil =>
    have hclose : tokens ['\x7d'] = [.closeObject] := by
      rw [tokens_closeObject, tokens_of_space rfl]
    rw [List.map_singleton, String.intercalate_singleton,
      foldl_memberText m [] done first (bounds_cons (by decide)), hclose]
    rfl
  | cons n ns ih =>
    have hchars : (",".intercalate ((m :: n :: ns).map MemberText.text)).toList ++ ['\x7d'] =
        m.text.toList ++ ',' :: ((",".intercalate ((n :: ns).map MemberText.text)).toList ++
          ['\x7d']) := by
      simp [String.intercalate_cons_cons]
    rw [hchars, foldl_memberText m [] done first (bounds_cons (by decide)), tokens_comma]
    exact ih n ((some m.key, m.tree) :: done) false

theorem Document.ofText_objectText (ms : List MemberText) :
    Document.ofText (objectText ms) =
      ⟨.object (.ofList (ms.map fun m => (m.key, m.tree))), true⟩ := by
  have hchars : (objectText ms).toList =
      '\x7b' :: ((",".intercalate (ms.map MemberText.text)).toList ++ ['\x7d']) := by
    simp [objectText]
  have hfold : (tokens (objectText ms).toList).foldl Reading.step (.atValue [] false) =
      .afterValue [] (.object (.ofList (ms.map fun m => (m.key, m.tree)))) := by
    rw [hchars, tokens_openObject]
    cases ms with
    | nil =>
      change (tokens ['\x7d']).foldl Reading.step (.atKey [] [] true) = _
      rw [tokens_closeObject, tokens_of_space rfl]
      rfl
    | cons m ms => exact foldl_memberTexts m ms [] true
  rw [ofText, ofTokens, hfold]
  rfl

end ContractTypings.Json
