import ChromiumHmos.Lib.TextPieces

set_option autoImplicit false

/-!
# Preview text

A field as its `TextInputClient` documents it, and the preview an input method puts into it.
Offsets count UTF-16 units.
-/

namespace ChromiumHmos.Ozone

open Lib

structure TextRange where
  start : Nat
  stop : Nat
  ordered : start ≤ stop

def TextRange.caret (offset : Nat) : TextRange := ⟨offset, offset, le_rfl⟩

def TextRange.length (range : TextRange) : Nat := range.stop - range.start

/-- A text and the caret in it. -/
structure CompositionText where
  text : List UInt16
  selection : Nat
  inside : selection ≤ text.length

structure TextInputClient where
  text : List UInt16
  selection : TextRange
  composition : Option TextRange
  inputTypeNone : Bool
  -- Whether `GetCompositionTextRange` and `GetTextFromRange` answer.
  tellsRange : Bool
  tellsText : Bool
  selectionInside : selection.stop ≤ text.length
  compositionInside : ∀ range ∈ composition, range.start < range.stop ∧ range.stop ≤ text.length

namespace TextInputClient

variable (client : TextInputClient)

def hasCompositionText : Bool := client.composition.isSome

def getCompositionTextRange : Option TextRange :=
  if client.tellsRange then client.composition else none

def getTextFromRange (range : TextRange) : Option (List UInt16) :=
  if client.tellsText then some ((client.text.drop range.start).take range.length) else none

-- The composition becomes final text; the selection may be kept.
def confirmCompositionText (keepSelection : Bool) : TextInputClient :=
  { client with
    composition := none
    selection :=
      if keepSelection then client.selection
      else (client.composition.map fun range => TextRange.caret range.stop).getD client.selection
    selectionInside := by
      cases shown : client.composition with
      | none => cases keepSelection <;> exact client.selectionInside
      | some range =>
        cases keepSelection with
        | true => exact client.selectionInside
        | false => exact (client.compositionInside range shown).2
    compositionInside := by simp }

-- Refused for a range outside the text.
def setEditableSelectionRange (range : TextRange) : TextInputClient :=
  if inside : range.stop ≤ client.text.length then
    { client with selection := range, selectionInside := inside }
  else client

/-- The composition there is, or else the selection. -/
def compositionTarget : TextRange := client.composition.getD client.selection

theorem compositionTarget_inside : client.compositionTarget.stop <= client.text.length := by
  unfold compositionTarget
  cases shown : client.composition with
  | none => exact client.selectionInside
  | some range => exact (client.compositionInside range shown).2

theorem splice_target_length (inserted : List UInt16) :
    client.compositionTarget.start + inserted.length <=
      (splice client.text client.compositionTarget.start client.compositionTarget.stop
        inserted).length := by
  have size := splice_length client.text _ _ inserted client.compositionTarget.ordered
    client.compositionTarget_inside
  have inside := client.compositionTarget_inside
  have ordered := client.compositionTarget.ordered
  omega

-- Replaces the composition there is, or else the selection.
def setCompositionText (composition : CompositionText) : TextInputClient :=
  { client with
    text := splice client.text client.compositionTarget.start client.compositionTarget.stop
      composition.text
    selection := TextRange.caret (client.compositionTarget.start + composition.selection)
    composition :=
      if composition.text = [] then none
      else
        some
          ⟨client.compositionTarget.start,
            client.compositionTarget.start + composition.text.length, by omega⟩
    selectionInside := by
      have whole := client.splice_target_length composition.text
      have caret := composition.inside
      simp only [TextRange.caret]
      omega
    compositionInside := by
      intro range member
      have whole := client.splice_target_length composition.text
      split at member
      next => cases member
      next filled =>
        cases member
        have positive := List.length_pos_of_ne_nil filled
        exact ⟨by simp only; omega, whole⟩ }

end TextInputClient

def CompositionText.ofText (text : List UInt16) : CompositionText := ⟨text, text.length, le_rfl⟩

/-- The preview showing with the target replaced; the caret comes after the new part. -/
def CompositionText.edited (current target : TextRange) (currentText text : List UInt16)
    (whole : currentText.length = current.length) (starts : current.start ≤ target.start)
    (stops : target.stop ≤ current.stop) : CompositionText where
  text := splice currentText (target.start - current.start) (target.stop - current.start) text
  selection := target.start - current.start + text.length
  inside := by
    have ordered := target.ordered
    have within : target.stop - current.start ≤ currentText.length := by
      simp only [whole, TextRange.length]
      omega
    have size := splice_length currentText (target.start - current.start)
      (target.stop - current.start) text (by omega) within
    omega

namespace TextInputClient

variable (client : TextInputClient)

-- Committed text: commit any preview first, then select the range, which a composition replaces.
def previewOverCommitted (target : TextRange) (text : List UInt16) : TextInputClient :=
  let client := if client.hasCompositionText then client.confirmCompositionText true else client
  (client.setEditableSelectionRange target).setCompositionText (.ofText text)

def previewOver (target : TextRange) (text : List UInt16) : TextInputClient :=
  match client.getCompositionTextRange with
  | some current =>
    match client.getTextFromRange current with
    | some currentText =>
      if inside : (current.start ≤ target.start ∧ target.stop ≤ current.stop) ∧
          currentText.length = current.length then
        -- Inside the preview already showing: it stays one composition.
        client.setCompositionText
          (.edited current target currentText text inside.2 inside.1.1 inside.1.2)
      else client.previewOverCommitted target text
    | none => client.previewOverCommitted target text
  | none => client.previewOverCommitted target text

end TextInputClient

def handlePreviewText (client : Option TextInputClient) (text : List UInt16) (start stop : Int) :
    Option TextInputClient :=
  client.map fun client =>
    if client.inputTypeNone then client
    else if range : 0 ≤ start ∧ start ≤ stop then
      client.previewOver ⟨start.toNat, stop.toNat, Int.toNat_le_toNat range.2⟩ text
    else client.setCompositionText (.ofText text)

/-- The composition is this stretch of the text; an empty one is no composition. -/
def Covers (composition : Option TextRange) (start length : Nat) : Prop :=
  (length = 0 ∧ composition = none) ∨
    (length ≠ 0 ∧ ∃ range, composition = some range ∧ range.start = start ∧
      range.stop = start + length)

namespace TextInputClient

variable (client : TextInputClient)

/-- The target lies inside the preview showing, and the client can tell. -/
structure EditsInPlace (target current : TextRange) : Prop where
  tells : client.tellsRange = true ∧ client.tellsText = true
  showing : client.composition = some current
  inside : current.start ≤ target.start ∧ target.stop ≤ current.stop

theorem setCompositionText_covers (composition : CompositionText) :
    Covers (client.setCompositionText composition).composition client.compositionTarget.start
      composition.text.length := by
  unfold setCompositionText Covers
  dsimp only
  split
  next empty => exact Or.inl ⟨by simp [empty], rfl⟩
  next filled => exact Or.inr ⟨by simpa using filled, _, rfl, rfl, rfl⟩

theorem previewOverCommitted_replaces (target : TextRange) (text : List UInt16)
    (valid : target.stop <= client.text.length) :
    (client.previewOverCommitted target text).text = splice client.text target.start target.stop text /\
      Covers (client.previewOverCommitted target text).composition target.start text.length := by
  have selected (other : TextInputClient) (same : other.text = client.text)
      (cleared : other.composition = none) :
      ((other.setEditableSelectionRange target).setCompositionText (.ofText text)).text =
          splice client.text target.start target.stop text /\
        Covers ((other.setEditableSelectionRange target).setCompositionText (.ofText text)).composition
          target.start text.length := by
    have taken : other.setEditableSelectionRange target =
        { other with
          selection := target
          selectionInside := by rw [same]; exact valid } := by
      rw [setEditableSelectionRange, dif_pos (by rw [same]; exact valid)]
    have aimed : (other.setEditableSelectionRange target).compositionTarget = target := by
      rw [taken]
      show other.composition.getD target = target
      simp [cleared]
    have covers := (other.setEditableSelectionRange target).setCompositionText_covers (.ofText text)
    rw [aimed] at covers
    refine ⟨?_, covers⟩
    simp only [setCompositionText, aimed]
    rw [taken]
    simp only [CompositionText.ofText, same]
  unfold previewOverCommitted
  dsimp only
  split
  next => exact selected _ rfl rfl
  next absent =>
    refine selected client rfl ?_
    simpa [hasCompositionText] using absent

theorem edited_in_place (target current : TextRange) (currentText text : List UInt16)
    (showing : client.composition = some current)
    (read : currentText = (client.text.drop current.start).take current.length)
    (whole : currentText.length = current.length) (starts : current.start <= target.start)
    (stops : target.stop <= current.stop) :
    (client.setCompositionText (.edited current target currentText text whole starts stops)).text =
        splice client.text target.start target.stop text /\
      Covers (client.setCompositionText
          (.edited current target currentText text whole starts stops)).composition
        current.start (current.length - target.length + text.length) := by
  have aimed : client.compositionTarget = current := by
    rw [compositionTarget, showing, Option.getD_some]
  have covers := client.setCompositionText_covers
    (.edited current target currentText text whole starts stops)
  rw [aimed] at covers
  have ordered := target.ordered
  have size : (CompositionText.edited current target currentText text whole starts stops).text.length =
      current.length - target.length + text.length := by
    have length := splice_length currentText (target.start - current.start)
      (target.stop - current.start) text (by omega) (by
        rw [whole, TextRange.length]
        omega)
    simp only [CompositionText.edited, TextRange.length] at length ⊢ whole
    omega
  rw [size] at covers
  refine ⟨?_, covers⟩
  simp only [setCompositionText, aimed, CompositionText.edited, read, TextRange.length]
  exact splice_part client.text _ _ _ _ text starts ordered stops

theorem previewOver_replaces (target : TextRange) (text : List UInt16)
    (valid : target.stop <= client.text.length) :
    (client.previewOver target text).text = splice client.text target.start target.stop text /\
      (∀ current, client.EditsInPlace target current ->
        Covers (client.previewOver target text).composition current.start
          (current.length - target.length + text.length)) /\
      ((¬∃ current, client.EditsInPlace target current) ->
        Covers (client.previewOver target text).composition target.start text.length) := by
  have committed := client.previewOverCommitted_replaces target text valid
  -- Wherever the target is not edited in place, it is replaced as committed text.
  have elsewhere (apart : ¬∃ current, client.EditsInPlace target current)
      (same : client.previewOver target text = client.previewOverCommitted target text) :
      (client.previewOver target text).text = splice client.text target.start target.stop text /\
        (∀ current, client.EditsInPlace target current ->
          Covers (client.previewOver target text).composition current.start
            (current.length - target.length + text.length)) /\
        ((¬∃ current, client.EditsInPlace target current) ->
          Covers (client.previewOver target text).composition target.start text.length) := by
    rw [same]
    exact ⟨committed.1, fun current edits => absurd ⟨current, edits⟩ apart, fun _ => committed.2⟩
  cases asked : client.getCompositionTextRange with
  | none =>
    refine elsewhere ?_ (by simp [previewOver, asked])
    rintro ⟨current, edits⟩
    simp [getCompositionTextRange, edits.tells.1, edits.showing] at asked
  | some current =>
    have showing : client.tellsRange = true /\ client.composition = some current := by
      simpa [getCompositionTextRange] using asked
    cases read : client.getTextFromRange current with
    | none =>
      refine elsewhere ?_ (by simp [previewOver, asked, read])
      rintro ⟨_, edits⟩
      simp [getTextFromRange, edits.tells.2] at read
    | some currentText =>
      have told : client.tellsText = true /\
          (client.text.drop current.start).take current.length = currentText := by
        simpa [getTextFromRange] using read
      have fits := (client.compositionInside current showing.2).2
      have whole : currentText.length = current.length := by
        rw [<- told.2, List.length_take, List.length_drop, TextRange.length]
        omega
      by_cases inside : current.start <= target.start /\ target.stop <= current.stop
      · have edited := client.edited_in_place target current currentText text showing.2
          told.2.symm whole inside.1 inside.2
        have same : client.previewOver target text = client.setCompositionText
            (.edited current target currentText text whole inside.1 inside.2) := by
          simp [previewOver, asked, read, inside, whole]
        rw [same]
        refine ⟨edited.1, ?_, fun apart => absurd ⟨current, ⟨showing.1, told.1⟩, showing.2, inside⟩ apart⟩
        intro other edits
        cases Option.some.inj (edits.showing.symm.trans showing.2)
        exact edited.2
      · refine elsewhere ?_ (by simp [previewOver, asked, read, inside])
        rintro ⟨other, edits⟩
        cases Option.some.inj (edits.showing.symm.trans showing.2)
        exact inside edits.inside

end TextInputClient

/-- The range is replaced and nothing else; the composition is the new part, or the preview it edits. -/
theorem preview_text_replaces_its_range (client : TextInputClient) (text : List UInt16)
    (start stop : Nat) (ordered : start ≤ stop) (valid : stop ≤ client.text.length)
    (editable : client.inputTypeNone = false) :
    ∃ after, handlePreviewText (some client) text start stop = some after ∧
      after.text = splice client.text start stop text ∧
      (∀ current, client.EditsInPlace ⟨start, stop, ordered⟩ current →
        Covers after.composition current.start (current.length - (stop - start) + text.length)) ∧
      ((¬∃ current, client.EditsInPlace ⟨start, stop, ordered⟩ current) →
        Covers after.composition start text.length) := by
  refine ⟨client.previewOver ⟨start, stop, ordered⟩ text, ?_,
    client.previewOver_replaces ⟨start, stop, ordered⟩ text valid⟩
  have range : (0 : Int) ≤ start ∧ (start : Int) ≤ stop := ⟨by omega, by omega⟩
  simp [handlePreviewText, editable, ordered]

-- "hell" as typed, with the caret after it.
def committedHell : TextInputClient where
  text := [104, 101, 108, 108]
  selection := ⟨4, 4, le_rfl⟩
  composition := none
  inputTypeNone := false
  tellsRange := true
  tellsText := true
  selectionInside := by decide
  compositionInside := by simp

/-- Picking "Hello" for "hell" leaves "Hello". -/
theorem preview_text_replaces_hell : ∃ after,
    handlePreviewText (some committedHell) [72, 101, 108, 108, 111] 0 4 = some after ∧
      after.text = [72, 101, 108, 108, 111] ∧ Covers after.composition 0 5 := by
  obtain ⟨after, done, replaced, -, covers⟩ := preview_text_replaces_its_range committedHell
    [72, 101, 108, 108, 111] 0 4 (by decide) (by decide) rfl
  refine ⟨after, done, replaced, covers ?_⟩
  rintro ⟨current, edits⟩
  cases edits.showing

-- "ab", all of it the preview showing.
def showingPreview : TextInputClient where
  text := [97, 98]
  selection := ⟨2, 2, le_rfl⟩
  composition := some ⟨0, 2, by omega⟩
  inputTypeNone := false
  tellsRange := true
  tellsText := true
  selectionInside := by decide
  compositionInside := by
    intro range member
    cases member
    decide

/-- A preview edited in place stays one composition: it covers more than the inserted text. -/
theorem edited_preview_covers_more :
    ¬∀ (client : TextInputClient) (text : List UInt16) (start stop : Nat), start ≤ stop →
      stop ≤ client.text.length → client.inputTypeNone = false →
      ∃ after, handlePreviewText (some client) text start stop = some after ∧
        after.text = splice client.text start stop text ∧
        Covers after.composition start text.length := by
  intro always
  obtain ⟨after, done, -, covers⟩ := always showingPreview [120] 0 1 (by decide) (by decide) rfl
  have two : (handlePreviewText (some showingPreview) [120] 0 1).map
      (fun after => after.composition.map (·.stop)) = some (some 2) := by decide
  rw [show ((0 : Nat) : Int) = 0 from rfl, show ((1 : Nat) : Int) = 1 from rfl] at done
  rw [done] at two
  rcases covers with ⟨empty, -⟩ | ⟨-, range, shown, -, stop⟩
  · cases empty
  · simp only [Option.map_some, shown, Option.some.injEq] at two
    rw [two] at stop
    cases stop

end ChromiumHmos.Ozone
