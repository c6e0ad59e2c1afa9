import Gedcom.Proofs.Partition
import Gedcom.Proofs.Refiltering
import Gedcom.Proofs.TextGraph

/-!
# Lines and their text

A line is read in one piece, and there are readers for parts of it: the level it begins with, the
record that its value points to, and the record that a reference line names.  All of them agree
with `render`, which writes a line.

A line that can be written has fields that fit (`Fits`), and is read as it was written
(`ofLine?_render`); what is read fits (`fits_of_ofLine?`), so that it can be written, in the
usual form, and read again.  The text need not be the one that was read: levels lose their leading
zeros, a value that follows its tag at once gets a blank, and a blank without a value goes.
`ofText_render` adds that a structure cut at a level is never refused for its level.
-/
namespace Gedcom
namespace Line

/-- Whether the fields of a line can be written: a level of 32 bits, an identifier as records have
them, a tag, and a value on one line. -/
structure Fits (line : Line) : Prop where
  level : line.level ≤ maxLevel
  xref : ∀ xref ∈ line.xref, isXref xref = true
  tag : isTag line.tag = true
  value : '\n' ∉ line.value

/-! ## Writing a line -/

/-- The part of a line behind its level and identifier: tag and value. -/
def renderBody (line : Line) : Text :=
  line.tag.toList ++ if line.value.isEmpty then [] else ' ' :: line.value

theorem render_of_xref {line : Line} {xref : String} (h : line.xref = some xref) :
    line.render = Nat.toDigits 10 line.level ++
      ' ' :: '@' :: (xref.toList ++ '@' :: ' ' :: line.renderBody) := by
  simp [render, renderBody, h]

theorem render_of_no_xref {line : Line} (h : line.xref = none) :
    line.render = Nat.toDigits 10 line.level ++ ' ' :: line.renderBody := by
  simp [render, renderBody, h]

/-- Tag and value are read as they are written. -/
theorem ofBody?_renderBody {line : Line} (htag : isTag line.tag = true) (xref : Option String) :
    ofBody? line.level xref line.renderBody = some { line with xref } := by
  obtain ⟨level, _, tag, value⟩ := line
  dsimp only at htag
  rw [ofBody?, renderBody]
  cases value with
  | nil =>
    dsimp only
    rw [List.isEmpty_nil, if_pos rfl, List.append_nil, takeTag?_tag htag]
    rfl
  | cons c cs =>
    have htake : takeTag? (tag.toList ++ ' ' :: c :: cs) = some (tag, ' ' :: c :: cs) :=
      takeTag?_eq_some.mpr ⟨rfl, htag⟩
    dsimp only
    rw [List.isEmpty_cons, if_neg Bool.false_ne_true, htake]
    rfl

/-- **A line is read as it is written.** -/
theorem ofLine?_render {line : Line} (h : line.Fits) : ofLine? line.render = some line := by
  cases hxref : line.xref with
  | some xref =>
    have htake : takeXref? ('@' :: (xref.toList ++ '@' :: ' ' :: line.renderBody)) =
        some (xref, ' ' :: line.renderBody) :=
      takeXref?_eq_some.mpr ⟨rfl, h.xref xref hxref⟩
    rw [render_of_xref hxref, ofLine?, takeLevel?_toDigits h.level]
    simp only [htake]
    rw [ofBody?_renderBody h.tag, ← hxref]
  | none =>
    have htake : takeXref? line.renderBody = none := takeXref?_tag h.tag _
    rw [render_of_no_xref hxref, ofLine?, takeLevel?_toDigits h.level]
    simp only [htake]
    rw [ofBody?_renderBody h.tag, ← hxref]

theorem newline_notMem_render {line : Line} (h : line.Fits) : '\n' ∉ line.render := by
  have hdigits : '\n' ∉ Nat.toDigits 10 line.level := fun hmem =>
    absurd (Nat.isDigit_of_mem_toDigits (by decide) (by decide) hmem) (by decide)
  have htag : '\n' ∉ line.tag.toList := fun hmem =>
    absurd (List.all_eq_true.mp (Bool.and_eq_true_iff.mp h.tag).2 _ hmem) (by decide)
  have hbody : '\n' ∉ line.renderBody := by
    rw [renderBody, List.mem_append, not_or]
    refine ⟨htag, ?_⟩
    split
    · exact List.not_mem_nil
    · rw [List.mem_cons, not_or]
      exact ⟨by decide, h.value⟩
  cases hxref : line.xref with
  | some xref =>
    have hx : '\n' ∉ xref.toList := fun hmem =>
      absurd (List.all_eq_true.mp (Bool.and_eq_true_iff.mp (h.xref xref hxref)).2 _ hmem)
        (by decide)
    rw [render_of_xref hxref]
    simp [hdigits, hx, hbody]
  | none =>
    rw [render_of_no_xref hxref]
    simp [hdigits, hbody]

theorem ofText_render_of_fits {line : Line} (h : line.Fits) : ofText line.render = .ok line := by
  rw [ofText, Text.firstLine_eq_self (newline_notMem_render h), ofLine?_render h]

/-- **A reference line names the record** that its value points to. -/
theorem reference?_render {line : Line} (htag : isTag line.tag = true) (hxref : line.xref = none) :
    reference? line.render = line.pointer? := by
  have hdigits : ∀ c ∈ Nat.toDigits 10 line.level, c.isDigit = true := fun c hc =>
    Nat.isDigit_of_mem_toDigits (by decide) (by decide) hc
  obtain ⟨htake, hdrop⟩ := takeWhile_stop (c := ' ') (by decide) hdigits line.renderBody
  rw [render_of_no_xref hxref, reference?, htake, hdrop, renderBody, pointer?,
    if_neg (by simp [Nat.toDigits_ne_nil])]
  cases hvalue : line.value with
  | nil =>
    simp only [List.isEmpty_nil, if_true, List.append_nil, takeTag?_tag htag]
    rfl
  | cons c cs =>
    have hbody : takeTag? (line.tag.toList ++ ' ' :: c :: cs) = some (line.tag, ' ' :: c :: cs) :=
      takeTag?_eq_some.mpr ⟨rfl, htag⟩
    simp only [List.isEmpty_cons, Bool.false_eq_true, if_false, hbody]

/-! ## Reading a line -/

/-- The value of a line is the end of its text. -/
theorem value_suffix_of_ofBody? {level : Nat} {xref : Option String} {t : Text} {line : Line}
    (h : ofBody? level xref t = some line) : line.value <:+ t := by
  unfold ofBody? at h
  split at h
  · rename_i tag rest htag
    have hrest : rest <:+ t := by
      unfold takeTag? at htag
      dsimp only at htag
      split at htag
      · cases htag
      · rw [← (Prod.mk.inj (Option.some.inj htag)).2]
        exact List.dropWhile_suffix _
    split at h
    · cases h
    · rw [← Option.some.inj h]
      dsimp only
      split
      · exact (List.tail_suffix rest).trans hrest
      · exact hrest
  · cases h

/-- **What is read fits.** -/
theorem fits_of_ofLine? {l : Text} {line : Line} (hl : '\n' ∉ l) (h : ofLine? l = some line) :
    line.Fits := by
  -- the fields of what stands behind the level, with or without an identifier
  have hbody : ∀ {level : Nat} {xref : Option String} {body : Text}, level ≤ maxLevel →
      (∀ x ∈ xref, isXref x = true) → body <:+ l → ofBody? level xref body = some line →
      line.Fits := by
    intro level xref body hlevel hxref hsuffix hline
    refine ⟨level_of_ofBody? hline ▸ hlevel, (xref_of_ofBody? hline).1 ▸ hxref,
      isTag_of_ofBody? hline, fun hmem => ?_⟩
    exact hl (((value_suffix_of_ofBody? hline).trans hsuffix).mem hmem)
  unfold ofLine? at h
  split at h
  · rename_i level rest htake
    obtain ⟨hlevel, hafter⟩ := le_maxLevel_of_takeLevel? htake
    have hrest : rest <:+ l := (List.suffix_cons ' ' rest).trans hafter
    split at h
    · rename_i xref body hxref
      obtain ⟨hsplit, hvalid⟩ := takeXref?_eq_some.mp hxref
      refine hbody hlevel ?_ ?_ h
      · rintro x hx
        obtain rfl := Option.some.inj hx
        exact hvalid
      · refine List.IsSuffix.trans ⟨'@' :: (xref.toList ++ ['@', ' ']), ?_⟩ hrest
        rw [hsplit]
        simp
    · exact hbody hlevel (by rintro x ⟨⟩) hrest h
  · cases h

theorem newline_notMem_firstLine (t : Text) : '\n' ∉ Text.firstLine t := fun hmem =>
  absurd (List.mem_takeWhile_imp hmem) (by decide)

/-- The level of a text is the level of its first line. -/
theorem levelOf?_firstLine (t : Text) : levelOf? (Text.firstLine t) = levelOf? t := by
  obtain ⟨ls, hls⟩ := Text.exists_lines_eq t
  have hlevel : ∀ level, hasLevel level t = hasLevel level (Text.firstLine t) := by
    intro level
    rw [← hasLevel_joinLines level (Text.firstLine t) ls, ← hls, Text.joinLines_lines]
  refine Option.ext fun level => ?_
  rw [← hasLevel_eq_true, ← hasLevel_eq_true, hlevel]

/-- **Lines and their text.**  A line whose fields fit is read as it is written, and if it has no
identifier then what it points to is what it names as a reference line.  Whatever text is read as a
line, the fields of the line fit, its level is the level of the text, and it can be written and
read again.  A structure that a text was cut into is a line of the level of the cut, or no line at
all. -/
theorem ofText_render :
    (∀ line : Line, line.Fits → ofText line.render = .ok line ∧
      (line.xref = none → line.pointer? = reference? line.render)) ∧
      (∀ (t : Text) (line : Line), ofText t = .ok line →
        line.Fits ∧ levelOf? t = some line.level ∧ ofText line.render = .ok line ∧
          (line.xref = none → line.pointer? = reference? line.render)) ∧
      ∀ (level : Nat) (t : Text), ∀ b ∈ substructureBlocks level t,
        ofTextAt level b = ofText b := by
  have hwritten : ∀ line : Line, line.Fits → ofText line.render = .ok line ∧
      (line.xref = none → line.pointer? = reference? line.render) := fun line h =>
    ⟨ofText_render_of_fits h, fun hxref => (reference?_render h.tag hxref).symm⟩
  have hread : ∀ {t : Text} {line : Line}, ofText t = .ok line →
      ofLine? (Text.firstLine t) = some line := by
    intro t line h
    unfold ofText at h
    split at h
    · rename_i line' hline
      rw [hline, Except.ok.inj h]
    · cases h
  refine ⟨hwritten, fun t line h => ?_, fun level t b hb => ?_⟩
  · have hfits : line.Fits := fits_of_ofLine? (newline_notMem_firstLine t) (hread h)
    refine ⟨hfits, ?_, hwritten line hfits⟩
    rw [← levelOf?_firstLine]
    exact levelOf?_of_ofLine? (hread h)
  · obtain ⟨first, later, hblocks⟩ : ∃ first later, blocksBefore level t = first :: later := by
      obtain ⟨ls, hls⟩ := Text.exists_lines_eq t
      rw [blocksBefore, hls, blocks_cons]
      exact ⟨_, _, rfl⟩
    rw [substructureBlocks, hblocks, List.tail_cons] at hb
    have hlevel := (cutsInto_of_blocksBefore hblocks).begins b hb
    rw [ofTextAt, ofText]
    cases hline : ofLine? (Text.firstLine b) with
    | none => rfl
    | some line =>
      rw [levelOf?_of_ofLine? hline] at hlevel
      exact if_pos (Option.some.inj hlevel)

/-- A reference of the highest level with a longest identifier; a line whose level has a zero in
front and whose value is a pointer behind two blanks; a structure that is no line. -/
theorem ofText_render_twin :
    let twin : Line := ⟨maxLevel, none, "ASSO", "@ABCDEFGHIJKLMNOPQRST@ é".toList⟩
    let note : Line := ⟨1, some "N1", "NOTE", " @I2@".toList⟩
    let t := "01 @N1@ NOTE  @I2@\n2 CONT".toList
    let b := "1 SEXé".toList
    (ofText twin.render = .ok twin ∧ twin.pointer? = reference? twin.render ∧
        twin.pointer? = some "ABCDEFGHIJKLMNOPQRST") ∧
      (ofText t = .ok note ∧ levelOf? t = some 1 ∧ ofText note.render = .ok note) ∧
      b ∈ substructureBlocks 1 ("0 @I1@ INDI\n".toList ++ b) ∧
      ofTextAt 1 b = ofText b := by
  intro twin note t b
  have htwin : twin.Fits :=
    ⟨by decide, by rintro _ ⟨⟩, by decide, by decide⟩
  have hnote : ofText t = .ok note := by decide
  have hb : b ∈ substructureBlocks 1 ("0 @I1@ INDI\n".toList ++ b) := by decide
  obtain ⟨hwritten, hread, hcut⟩ := ofText_render
  obtain ⟨htext, hpointer⟩ := hwritten twin htwin
  obtain ⟨_, hlevel, hagain, _⟩ := hread t note hnote
  exact ⟨⟨htext, hpointer rfl, by decide⟩, ⟨hnote, hlevel, hagain⟩, hb, hcut 1 _ b hb⟩

end Line
end Gedcom
