import Gedcom.Params
import Gedcom.Proofs.Replacements
import Mathlib.Data.List.Infix

/-!
# Values in replacements

What becomes of a replacement when parameters are put in is a sequence of own texts of the
replacement, with values between them (`Filling`).  Names are substituted one after the other
in what by then is the text, values included.  If values do not take part in placeholders, then
that is the same as substituting in the own texts only (`Params.Separates`); it is so if the
values hold no percent sign and are not found in placeholders (`separates_of_isPlain`).

A filling is *guarded* if none of its own texts goes on into the value behind it.  The text of
a guarded filling makes of every match what the own texts make of it, with the values between
them (`expand_written_text`).  The text of any other filling makes less of every match if the
values are enough digits and a brace (`length_expand_lt`).
-/
namespace Gedcom
open Regex (Piece isClosed digitsBrace)

/-! ## Texts with values -/

/-- A replacement with values put in: its own texts, and the values between them. -/
inductive Filling
  | last (own : Text)
  | hole (own : Text) (value : String) (rest : Filling)
deriving DecidableEq, Repr

namespace Filling

/-- The text of a filling, with the dollar signs of values doubled. -/
def text : Filling → Text
  | last own => own
  | hole own value rest => own ++ (Params.literalValue value ++ rest.text)

/-- What a filling makes of a match: own texts refer to groups as they are written, and values
stay as they are. -/
def expand (r : Regex) (t : Text) (m : Regex.Match) : Filling → Text
  | last own => Piece.expand r t m (Piece.written own)
  | hole own value rest =>
    Piece.expand r t m (Piece.written own) ++ (value.toList ++ rest.expand r t m)

/-- Whether no own text goes on into the value behind it. -/
def isGuarded : Filling → Bool
  | last _ => true
  | hole own _ rest => isClosed own && rest.isGuarded

/-- The values of a filling. -/
def values : Filling → List String
  | last _ => []
  | hole _ value rest => value :: rest.values

/-- A filling with its values left out. -/
def blank : Filling → Filling
  | last own => last own
  | hole own _ rest => hole own "" rest.blank

/-- A filling with one more character in front. -/
def cons (c : Char) : Filling → Filling
  | last own => last (c :: own)
  | hole own value rest => hole (c :: own) value rest

/-- Two fillings with a value between them. -/
def join : Filling → String → Filling → Filling
  | last own, value, g => hole own value g
  | hole own w rest, value, g => hole own w (rest.join value g)

/-- Every occurrence of `old` in a text gives way to a value.  `steps` bounds the number of
characters that are looked at. -/
def cutWithin (old : Text) (value : String) : (steps : Nat) → Text → Filling
  | 0, t => last t
  | _ + 1, [] => last []
  | n + 1, c :: cs =>
    match Text.after? old (c :: cs) with
    | some rest => hole [] value (cutWithin old value n rest)
    | none => (cutWithin old value n cs).cons c

/-- Every occurrence of `old` in a text gives way to a value. -/
def cut (old : Text) (value : String) (t : Text) : Filling := cutWithin old value t.length t

/-- Every occurrence of `old` in the own texts of a filling gives way to a value. -/
def fill (old : Text) (value : String) : Filling → Filling
  | last own => cut old value own
  | hole own w rest => (cut old value own).join w (rest.fill old value)

end Filling

namespace Params

/-- A replacement with the values of parameters put in, which are not looked at again. -/
def filling (ps : Params) (t : Text) : Filling :=
  ps.values.entries.foldl (fun f (name, value) => f.fill (placeholder name) value) (.last t)

/-- Whether values do not take part in the substitution of names in a replacement. -/
def Separates (ps : Params) (t : Text) : Prop := ps.interpolate t = (ps.filling t).text

/-- Whether values hold no percent sign and are not found in a placeholder. -/
def IsPlain (ps : Params) : Prop :=
  ∀ value ∈ ps.values.entries.map (·.2), '%' ∉ literalValue value ∧
    ∀ name ∈ ps.values.names, ¬literalValue value <:+: placeholder name

end Params

namespace Filling
variable {f g : Filling} {old : Text} {value : String}

/-! ## Text, values and own texts of a filling -/

@[simp] theorem text_cons (c : Char) (f : Filling) : (f.cons c).text = c :: f.text := by
  cases f <;> rfl

@[simp] theorem text_join (f : Filling) (value : String) (g : Filling) :
    (f.join value g).text = f.text ++ (Params.literalValue value ++ g.text) := by
  induction f with
  | last own => rfl
  | hole own w rest ih =>
    rw [join, text, text, ih]
    simp only [List.append_assoc]

theorem text_cutWithin (old : Text) (value : String) (n : Nat) (t : Text) :
    (cutWithin old value n t).text = Text.replaceWithin old (Params.literalValue value) n t := by
  induction n generalizing t with
  | zero => rfl
  | succ n ih =>
    cases t with
    | nil => rfl
    | cons c cs =>
      rw [cutWithin, Text.replaceWithin]
      cases Text.after? old (c :: cs) with
      | some rest => exact congrArg (Params.literalValue value ++ ·) (ih rest)
      | none =>
        dsimp only
        rw [text_cons, ih]

theorem text_cut (old : Text) (value : String) (t : Text) :
    (cut old value t).text = Text.replace old (Params.literalValue value) t :=
  text_cutWithin old value t.length t

@[simp] theorem values_cons (c : Char) (f : Filling) : (f.cons c).values = f.values := by
  cases f <;> rfl

@[simp] theorem values_join (f : Filling) (value : String) (g : Filling) :
    (f.join value g).values = f.values ++ value :: g.values := by
  induction f with
  | last own => rfl
  | hole own w rest ih => rw [join, values, values, ih, List.cons_append]

theorem eq_of_mem_values_cutWithin {n : Nat} {t : Text} {w : String}
    (h : w ∈ (cutWithin old value n t).values) : w = value := by
  induction n generalizing t with
  | zero => cases h
  | succ n ih =>
    cases t with
    | nil => cases h
    | cons c cs =>
      rw [cutWithin] at h
      cases hafter : Text.after? old (c :: cs) with
      | some rest =>
        rw [hafter] at h
        exact (List.mem_cons.mp h).elim id ih
      | none =>
        rw [hafter] at h
        exact ih (values_cons c _ ▸ h)

/-- The values of a filling with one more value put in. -/
theorem mem_values_fill {w : String} (h : w ∈ (f.fill old value).values) :
    w = value ∨ w ∈ f.values := by
  induction f with
  | last own => exact .inl (eq_of_mem_values_cutWithin h)
  | hole own v rest ih =>
    rw [fill, values_join, List.mem_append, List.mem_cons] at h
    obtain hcut | rfl | hrest := h
    · exact .inl (eq_of_mem_values_cutWithin hcut)
    · exact .inr List.mem_cons_self
    · exact (ih hrest).imp_right (List.mem_cons_of_mem v)

@[simp] theorem blank_cons (c : Char) (f : Filling) : (f.cons c).blank = f.blank.cons c := by
  cases f <;> rfl

@[simp] theorem blank_join (f : Filling) (value : String) (g : Filling) :
    (f.join value g).blank = f.blank.join "" g.blank := by
  induction f with
  | last own => rfl
  | hole own w rest ih => rw [join, blank, ih, blank, join]

theorem blank_cutWithin (old : Text) (value : String) (n : Nat) (t : Text) :
    (cutWithin old value n t).blank = cutWithin old "" n t := by
  induction n generalizing t with
  | zero => rfl
  | succ n ih =>
    cases t with
    | nil => rfl
    | cons c cs =>
      rw [cutWithin, cutWithin]
      cases Text.after? old (c :: cs) with
      | some rest => exact congrArg (hole [] "") (ih rest)
      | none =>
        dsimp only
        rw [blank_cons, ih]

/-- Where values are put in does not depend on what the values are. -/
theorem blank_fill (old : Text) (value : String) (f : Filling) :
    (f.fill old value).blank = f.blank.fill old "" := by
  induction f with
  | last own => exact blank_cutWithin old value own.length own
  | hole own w rest ih => rw [fill, blank_join, ih, cut, blank_cutWithin, blank, fill, cut]

@[simp] theorem isGuarded_blank (f : Filling) : f.blank.isGuarded = f.isGuarded := by
  induction f with
  | last own => rfl
  | hole own w rest ih => rw [blank, isGuarded, isGuarded, ih]

/-! ## What a filling makes of a match -/

section Expand
variable {r : Regex} {m : Regex.Match}

/-- A value is read as its characters, whatever follows. -/
theorem written_literalValue_append (value : String) (t : Text) :
    Piece.written (Params.literalValue value ++ t) =
      value.toList.map .char ++ Piece.written t := by
  rw [Params.literalValue]
  induction value.toList with
  | nil => rfl
  | cons c cs ih =>
    rw [List.flatMap_cons, List.map_cons, List.cons_append, ← ih, List.append_assoc]
    by_cases hc : c = '$'
    · rw [if_pos hc, hc]
      exact Piece.written_dollar _
    · rw [if_neg hc]
      exact Piece.written_char hc _

/-- **The text of a guarded filling** makes of a match what the filling does. -/
theorem expand_written_text (h : f.isGuarded = true) (t : Text) :
    Piece.expand r t m (Piece.written f.text) = f.expand r t m := by
  induction f with
  | last own => rfl
  | hole own value rest ih =>
    obtain ⟨hown, hrest⟩ := Bool.and_eq_true_iff.mp h
    rw [text, expand, Regex.written_append hown, written_literalValue_append,
      Piece.expand_append, Piece.expand_append, Piece.expand_chars, ih hrest]

theorem literalValue_digitsBrace (n : Nat) :
    Params.literalValue (String.ofList (digitsBrace n)) = digitsBrace n := by
  have hdollar : ∀ c ∈ digitsBrace n, c ≠ '$' := by
    intro c hc
    obtain hc | hc := List.mem_append.mp hc
    · rw [List.eq_of_mem_replicate hc]
      decide
    · rw [List.mem_singleton.mp hc]
      decide
  rw [Params.literalValue, String.toList_ofList,
    List.flatMap_congr fun c hc => if_neg (hdollar c hc), List.flatMap_singleton']

/-- **The text of another filling** makes less of a match if the values are digits and a
brace: an own text that goes on swallows them. -/
theorem length_expand_lt (h : f.isGuarded = false) {n : Nat} (hwithin : Regex.GroupsWithin n r m)
    (hvalues : ∀ value ∈ f.values, value = String.ofList (digitsBrace n)) (t : Text) :
    (Piece.expand r t m (Piece.written f.text)).length < (f.expand r t m).length := by
  induction f with
  | last own => cases h
  | hole own value rest ih =>
    obtain ⟨rfl, hrest⟩ := List.forall_mem_cons.mp hvalues
    rw [text, expand, List.length_append, List.length_append]
    cases hown : isClosed own with
    | true =>
      rw [isGuarded, hown, Bool.true_and] at h
      have hlt := ih h hrest
      rw [Regex.written_append hown, written_literalValue_append, Piece.expand_append,
        Piece.expand_append, Piece.expand_chars, List.length_append, List.length_append]
      omega
    | false =>
      have hlt := Regex.length_expand_append_lt hown hwithin t rest.text
      have hle : (Piece.expand r t m (Piece.written rest.text)).length ≤
          (rest.expand r t m).length := by
        cases hguarded : rest.isGuarded with
        | true => rw [expand_written_text hguarded]
        | false => exact (ih hguarded hrest).le
      rw [literalValue_digitsBrace, String.toList_ofList]
      omega

end Expand
end Filling

/-! ## Substituting in a text with a value -/

namespace Text
variable {old new : Text}

theorem after?_eq_some {head t rest : Text} : after? head t = some rest ↔ t = head ++ rest := by
  induction head generalizing t with
  | nil => simp [after?]
  | cons c head ih =>
    cases t with
    | nil => simp [after?]
    | cons d t =>
      by_cases hcd : c = d
      · simp [after?, hcd, ih]
      · simp [after?, hcd, eq_comm (a := d)]

theorem length_lt_of_after? (hold : old ≠ []) {t rest : Text} (h : after? old t = some rest) :
    rest.length < t.length := by
  rw [after?_eq_some.mp h, List.length_append]
  have := List.length_pos_of_ne_nil hold
  omega

/-- As many steps as there are characters are enough. -/
theorem replaceWithin_eq_replace (hold : old ≠ []) {n : Nat} {t : Text} (hn : t.length ≤ n) :
    replaceWithin old new n t = replace old new t := by
  rw [replace]
  generalize hk : t.length = k at hn
  replace hk : t.length ≤ k := hk.le
  induction k generalizing n t with
  | zero =>
    obtain rfl := List.eq_nil_of_length_eq_zero (Nat.le_zero.mp hk)
    cases n <;> rfl
  | succ k ih =>
    obtain ⟨n, rfl⟩ : ∃ n', n = n' + 1 := ⟨n - 1, by omega⟩
    cases t with
    | nil => rfl
    | cons c cs =>
      rw [List.length_cons] at hk
      rw [replaceWithin, replaceWithin]
      cases hafter : after? old (c :: cs) with
      | some rest =>
        have hlt := length_lt_of_after? hold hafter
        rw [List.length_cons] at hlt
        exact congrArg (new ++ ·) (ih (by omega) (by omega))
      | none => exact congrArg (c :: ·) (ih (by omega) (by omega))

theorem replace_of_after? (hold : old ≠ []) {t rest : Text} (h : after? old t = some rest) :
    replace old new t = new ++ replace old new rest := by
  have hlt := length_lt_of_after? hold h
  cases t with
  | nil => cases hlt
  | cons c cs =>
    rw [replace, List.length_cons, replaceWithin, h]
    rw [List.length_cons] at hlt
    exact congrArg (new ++ ·) (replaceWithin_eq_replace hold (by omega))

theorem replace_cons {c : Char} {cs : Text} (h : after? old (c :: cs) = none) :
    replace old new (c :: cs) = c :: replace old new cs := by
  rw [replace, List.length_cons, replaceWithin, h]
  rfl

/-- A text without the character with which occurrences begin stays as it is. -/
theorem replace_append_of_notMem {q : Char} {mid lit : Text} (hq : q ∉ lit) (tail : Text) :
    replace (q :: mid) new (lit ++ tail) = lit ++ replace (q :: mid) new tail := by
  induction lit with
  | nil => rfl
  | cons c lit ih =>
    obtain ⟨hc, hlit⟩ := not_or.mp (mt List.mem_cons.mpr hq)
    have hnone : after? (q :: mid) (c :: (lit ++ tail)) = none := by
      rw [after?, if_neg hc]
    rw [List.cons_append, replace_cons hnone, ih hlit, List.cons_append]

/-- An occurrence between two marks does not go on into a text that has no mark and is not part
of it. -/
theorem after?_append_eq_none {q : Char} {mid lit own : Text} (hq : q ∉ lit)
    (hlit : ¬lit <:+: q :: (mid ++ [q])) (h : after? (q :: (mid ++ [q])) own = none)
    (tail : Text) : after? (q :: (mid ++ [q])) (own ++ (lit ++ tail)) = none := by
  by_contra hne
  obtain ⟨rest, hrest⟩ := Option.ne_none_iff_exists'.mp hne
  obtain ⟨excess, hmarks, hexcess⟩ | ⟨rest', hrest', _⟩ :=
    List.append_eq_append_iff.mp (after?_eq_some.mp hrest)
  · obtain rfl | ⟨excess, z, rfl⟩ := excess.eq_nil_or_concat'
    · have hsome : after? (q :: (mid ++ [q])) own = some [] :=
        after?_eq_some.mpr (by rw [hmarks, List.append_nil, List.append_nil])
      rw [hsome] at h
      cases h
    · obtain rfl : q = z := by
        rw [← List.cons_append, ← List.append_assoc] at hmarks
        exact (List.cons.inj (List.append_inj' hmarks rfl).2).1
      obtain ⟨x, hx, _⟩ | ⟨x, hx, _⟩ := List.append_eq_append_iff.mp hexcess
      · exact hlit ⟨own, x, by rw [hmarks, hx, List.append_assoc]⟩
      · exact hq (by rw [hx]; simp)
  · rw [after?_eq_some.mpr hrest'] at h
    cases h

/-- **Occurrences between two marks** are found on both sides of a text that has no mark and is
not part of one. -/
theorem replace_append {q : Char} {mid lit : Text} (hq : q ∉ lit)
    (hlit : ¬lit <:+: q :: (mid ++ [q])) (own tail : Text) :
    replace (q :: (mid ++ [q])) new (own ++ (lit ++ tail)) =
      replace (q :: (mid ++ [q])) new own ++ (lit ++ replace (q :: (mid ++ [q])) new tail) := by
  have hold : q :: (mid ++ [q]) ≠ [] := List.cons_ne_nil q _
  induction hn : own.length using Nat.strong_induction_on generalizing own with
  | _ n ih =>
    cases own with
    | nil => exact replace_append_of_notMem hq tail
    | cons c cs =>
      cases hafter : after? (q :: (mid ++ [q])) (c :: cs) with
      | some rest =>
        have hlt := length_lt_of_after? hold hafter
        have hafter' : after? (q :: (mid ++ [q])) (c :: cs ++ (lit ++ tail)) =
            some (rest ++ (lit ++ tail)) := by
          rw [after?_eq_some, after?_eq_some.mp hafter, List.append_assoc]
        rw [replace_of_after? hold hafter', replace_of_after? hold hafter,
          ih rest.length (by omega) rest rfl, List.append_assoc]
      | none =>
        have hafter' : after? (q :: (mid ++ [q])) (c :: (cs ++ (lit ++ tail))) = none := by
          exact after?_append_eq_none hq hlit hafter tail
        rw [List.cons_append, replace_cons hafter', replace_cons hafter,
          ih cs.length (by rw [List.length_cons] at hn; omega) cs rfl, List.cons_append]

end Text

namespace Filling
variable {f : Filling} {name value : String}

theorem text_fill (h : ∀ w ∈ f.values, '%' ∉ Params.literalValue w ∧
      ¬Params.literalValue w <:+: Params.placeholder name) :
    (f.fill (Params.placeholder name) value).text =
      Text.replace (Params.placeholder name) (Params.literalValue value) f.text := by
  induction f with
  | last own => exact text_cut _ value own
  | hole own w rest ih =>
    obtain ⟨⟨hpercent, hinfix⟩, hrest⟩ := List.forall_mem_cons.mp h
    rw [fill, text_join, text_cut, ih hrest, text]
    exact (Text.replace_append hpercent hinfix own rest.text).symm

end Filling

namespace Params
variable {ps qs : Params}

/-- The values of a filling are values of the parameters. -/
theorem mem_values_filling {t : Text} {w : String} (h : w ∈ (ps.filling t).values) :
    w ∈ ps.values.entries.map (·.2) := by
  have hfold : ∀ (entries : List (String × String)) (f : Filling),
      w ∈ (entries.foldl (fun f (name, value) => f.fill (placeholder name) value) f).values →
        w ∈ f.values ∨ w ∈ entries.map (·.2) := by
    intro entries
    induction entries with
    | nil => exact fun f h => .inl h
    | cons e entries ih =>
      intro f h
      obtain h | h := ih _ h
      · obtain rfl | h := Filling.mem_values_fill h
        · exact .inr List.mem_cons_self
        · exact .inl h
      · exact .inr (List.mem_cons_of_mem _ h)
  exact (hfold _ _ h).resolve_left (by rw [Filling.values]; exact List.not_mem_nil)

theorem blank_filling (ps : Params) (t : Text) :
    (ps.filling t).blank =
      ps.values.names.foldl (fun f name => f.fill (placeholder name) "") (.last t) := by
  rw [filling, Table.names, List.foldl_map]
  exact (List.foldl_hom Filling.blank fun f e => (Filling.blank_fill _ e.2 f).symm).symm

/-- **Whether a filling is guarded** depends on the names of parameters only. -/
theorem isGuarded_filling (h : qs.values.names = ps.values.names) (t : Text) :
    (qs.filling t).isGuarded = (ps.filling t).isGuarded := by
  rw [← Filling.isGuarded_blank, blank_filling, h, ← blank_filling, Filling.isGuarded_blank]

/-- **Plain values** do not take part in the substitution of names. -/
theorem separates_of_isPlain (h : ps.IsPlain) (t : Text) : ps.Separates t := by
  have hfold : ∀ (entries : List (String × String)) (f : Filling),
      entries ⊆ ps.values.entries → (∀ w ∈ f.values, w ∈ ps.values.entries.map (·.2)) →
        entries.foldl
            (fun t (name, value) => Text.replace (placeholder name) (literalValue value) t) f.text =
          (entries.foldl (fun f (name, value) => f.fill (placeholder name) value) f).text := by
    intro entries
    induction entries with
    | nil => exact fun f _ _ => rfl
    | cons e entries ih =>
      intro f hentries hf
      obtain ⟨he, hentries⟩ := List.cons_subset.mp hentries
      rw [List.foldl_cons, List.foldl_cons, ← ih _ hentries]
      · congr 1
        exact (Filling.text_fill fun w hw =>
          ⟨(h w (hf w hw)).1, (h w (hf w hw)).2 e.1 (List.mem_map_of_mem he)⟩).symm
      · intro w hw
        obtain rfl | hw := Filling.mem_values_fill hw
        · exact List.mem_map_of_mem he
        · exact hf w hw
  exact hfold _ (.last t) (List.Subset.refl _) fun w hw => nomatch hw

/-- A value that refers to a parameter is looked at again. -/
example : ¬(Params.ofList [("base_url", "%TREE%"), ("tree", "main")]).Separates
    "%BASE_URL%".toList := by
  unfold Separates
  decide

end Params
end Gedcom
