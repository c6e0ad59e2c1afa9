import Gedcom.CommandLine.FileTree
import Gedcom.CommandLine
import Gedcom.Proofs.OutlineText

/-!
# The program without filters

Without filters the program cuts its input into records and writes them one
directly after the other.  The newlines at which it cut are not written again, so
that an input of several records comes out changed: its records run together.

`run_passes_iff` says that the program succeeds on every input, and that what it
writes is the input exactly if no line but the first begins a record.  What is
asked for beside that does not matter: rule files, parameters, telling what is
done, the console or a file.
-/
namespace Gedcom

/-! ## Records run together -/

section Blocks
variable {opens : Text → Bool}

theorem exists_levelBlocks_cons {ls : List Text} (h : ∃ l ∈ ls, opens l = true) :
    ∃ m ms bs, levelBlocks opens ls = (m :: ms) :: bs ∧ opens m = true := by
  induction ls with
  | nil =>
    obtain ⟨l, hl, _⟩ := h
    cases hl
  | cons k ks ih =>
    cases hk : opens k with
    | true => exact ⟨k, _, _, levelBlocks_cons_of_pos opens hk ks, hk⟩
    | false =>
      rw [levelBlocks_cons_of_neg opens hk]
      apply ih
      obtain ⟨l, hl, hopens⟩ := h
      rcases List.mem_cons.mp hl with rfl | hl
      · rw [hk] at hopens
        cases hopens
      · exact ⟨l, hl, hopens⟩

end Blocks

/-- A text that holds a single record is that record. -/
theorem flatten_recordBlocks {t : Text} (h : ∀ l ∈ (Text.lines t).tail, hasLevel 0 l = false) :
    (recordBlocks t).flatten = t := by
  cases t with
  | nil => rfl
  | cons c t =>
    obtain ⟨l, ls, hls⟩ := List.exists_cons_of_ne_nil (Text.lines_ne_nil (c :: t))
    rw [hls, List.tail_cons] at h
    have hblocks := joinLines_blocksBefore 0 (c :: t)
    have hone : blocksBefore 0 (c :: t) =
        [Text.joinLines (l :: ls.takeWhile fun k => !hasLevel 0 k)] := by
      rw [blocksBefore, hls, blocks_cons, levelBlocks_eq_nil _ h]
      rfl
    rw [hone, Text.joinLines_singleton] at hblocks
    show (blocksBefore 0 (c :: t)).flatten = c :: t
    rw [hone, hblocks, List.flatten_singleton]

/-- Where a text holds a second record, its records written one directly after the
other do not have the newline in front of it. -/
theorem exists_lost_newline {t : Text} (h : ∃ l ∈ (Text.lines t).tail, hasLevel 0 l = true) :
    ∃ first c rest others, c ≠ '\n' ∧ t = first ++ '\n' :: rest ∧
      (recordBlocks t).flatten = first ++ c :: others := by
  obtain ⟨l, ls, hls⟩ := List.exists_cons_of_ne_nil (Text.lines_ne_nil t)
  rw [hls, List.tail_cons] at h
  obtain ⟨m, ms, bs, hbs, hm⟩ := exists_levelBlocks_cons h
  obtain ⟨c, cs, rfl, hc⟩ := exists_digit_of_hasLevel hm
  have hblocks : blocksBefore 0 t =
      Text.joinLines (l :: ls.takeWhile fun k => !hasLevel 0 k) ::
        Text.joinLines ((c :: cs) :: ms) :: bs.map Text.joinLines := by
    rw [blocksBefore, hls, blocks_cons, hbs]
    rfl
  have hjoin := joinLines_blocksBefore 0 t
  rw [hblocks, Text.joinLines_cons_cons] at hjoin
  have hne : t.isEmpty = false := by
    rw [← hjoin]
    simp
  -- the second record begins with a digit where the text has its newline
  obtain ⟨others, hothers⟩ : ∃ others, Text.joinLines ((c :: cs) :: ms) = c :: others := by
    cases ms with
    | nil => exact ⟨cs, Text.joinLines_singleton _⟩
    | cons k ks => exact ⟨_, Text.joinLines_cons_cons _ _ _⟩
  have hflatten : (recordBlocks t).flatten =
      Text.joinLines (l :: ls.takeWhile fun k => !hasLevel 0 k) ++
        c :: (others ++ (bs.map Text.joinLines).flatten) := by
    rw [recordBlocks, hne, if_neg Bool.false_ne_true, hblocks, List.flatten_cons,
      List.flatten_cons, hothers, List.cons_append]
  refine ⟨_, c, _, _, ?_, hjoin.symm, hflatten⟩
  rintro rfl
  cases hc

/-- What begins with the records of a text, written one directly after the other,
does not begin with the text, if it holds a second record. -/
theorem append_flatten_recordBlocks_ne {t : Text}
    (h : ∃ l ∈ (Text.lines t).tail, hasLevel 0 l = true) (u v : Text) :
    (recordBlocks t).flatten ++ u ≠ t ++ v := by
  obtain ⟨first, c, rest, others, hc, ht, hflatten⟩ := exists_lost_newline h
  intro heq
  rw [hflatten, ht, List.append_assoc, List.append_assoc] at heq
  exact hc (List.cons.inj (List.append_cancel_left heq)).1

namespace CommandLine

theorem endLine_eq (t : Text) : endLine t = t ∨ endLine t = t ++ ['\n'] := by
  unfold endLine
  split
  · exact .inl rfl
  · exact .inr rfl

/-! ## Files -/

namespace FileTree

theorem placeAt_put_self {t : FileTree} {place : List String} (hplace : place ≠ [])
    (content : Text) : (t.put place (some content)).placeAt place = .file content := by
  rw [placeAt, if_neg (by simpa using hplace), lookup_put]

theorem placeAt_put_of_ne {t : FileTree} {place other : List String} (h : place ≠ other)
    (content : Option Text) : (t.put place content).placeAt other = t.placeAt other := by
  have hfilter : ∀ entries : List (List String × Option Text),
      (entries.filter fun e => e.1 != place).lookup other = entries.lookup other := by
    intro entries
    induction entries with
    | nil => rfl
    | cons e entries ih =>
      by_cases he : e.1 = place
      · rw [List.filter_cons_of_neg (by simpa using he), ih, List.lookup_cons,
          beq_false_of_ne (he ▸ h.symm)]
      · rw [List.filter_cons_of_pos (by simpa using he), List.lookup_cons, List.lookup_cons, ih]
  have hlookup : (t.put place content).entries.lookup other = t.entries.lookup other := by
    rw [put, List.lookup_append, hfilter, List.lookup_cons, beq_false_of_ne h.symm]
    simp
  rw [placeAt, placeAt, hlookup]

/-- A file put at a place that is no directory is in the way of no path that could
be followed before. -/
theorem follow_put {t : FileTree} {place : List String} (hplace : t.placeAt place ≠ .directory)
    (content : Text) {start : List String} {steps : List String} {goal : List String}
    (h : t.follow start steps = .ok goal) :
    (t.put place (some content)).follow start steps = .ok goal := by
  induction steps generalizing start with
  | nil => exact h
  | cons step steps ih =>
    rw [follow] at h ⊢
    cases hstart : t.placeAt start with
    | nothing =>
      rw [hstart] at h
      cases h
    | file _ =>
      rw [hstart] at h
      cases h
    | directory =>
      rw [hstart] at h
      have hne : place ≠ start := by
        rintro rfl
        exact hplace hstart
      rw [placeAt_put_of_ne hne, hstart]
      exact ih h

/-- Whether a path can be written to: once the directories on the way exist, some
content goes into its file. -/
def Accepts (t : FileTree) (path : String) : Prop :=
  ∃ t₁ content t₂, t.prepare path = .ok t₁ ∧ t₁.write path content = .ok t₂

theorem read_of_locate {t : FileTree} {path : String} {place : List String}
    (h : t.locate path = .ok place) :
    t.read path = match t.placeAt place with
      | .nothing => .error .missing
      | .directory => .error .isDirectory
      | .file content => if Path.endsInSlash path then .error .noDirectory else .ok content := by
  rw [read, h]
  rfl

theorem write_of_locate {t : FileTree} {path : String} {place : List String}
    (h : t.locate path = .ok place) (content : Text) :
    t.write path content =
      if Path.endsInSlash path || t.placeAt place = .directory then .error .isDirectory
      else .ok (t.put place (some content)) := by
  rw [write, h]
  rfl

/-- What it takes to write to a path, and what comes of it. -/
theorem write_eq_ok {t t' : FileTree} {path : String} {content : Text} :
    t.write path content = .ok t' ↔
      ∃ place, t.locate path = .ok place ∧ Path.endsInSlash path = false ∧
        t.placeAt place ≠ .directory ∧ t' = t.put place (some content) := by
  constructor
  · intro h
    cases hlocate : t.locate path with
    | error o =>
      rw [write, hlocate] at h
      cases h
    | ok place =>
      rw [write_of_locate hlocate] at h
      split at h
      · cases h
      · rename_i hfree
        rw [Bool.or_eq_true, not_or, Bool.not_eq_true, decide_eq_true_eq] at hfree
        exact ⟨place, rfl, hfree.1, hfree.2, (Except.ok.inj h).symm⟩
  · rintro ⟨place, hlocate, hslash, hplace, rfl⟩
    rw [write_of_locate hlocate, hslash, decide_eq_false hplace]
    rfl

/-- What is written is read again. -/
theorem read_of_write {t t' : FileTree} {path : String} {content : Text}
    (h : t.write path content = .ok t') : t'.read path = .ok content := by
  obtain ⟨place, hlocate, hslash, hplace, rfl⟩ := write_eq_ok.mp h
  have hne : place ≠ [] := by
    rintro rfl
    exact hplace rfl
  have hlocate' : (t.put place (some content)).locate path = .ok place := by
    unfold locate at hlocate ⊢
    split at hlocate
    · cases hlocate
    · rename_i habsolute
      rw [if_neg habsolute]
      exact follow_put hplace content hlocate
  rw [read_of_locate hlocate', placeAt_put_self hne, hslash]
  rfl

/-- What is written does not matter for whether it can be written. -/
theorem exists_write {t t' : FileTree} {path : String} {content : Text}
    (h : t.write path content = .ok t') (other : Text) :
    ∃ t₂, t.write path other = .ok t₂ := by
  obtain ⟨place, hlocate, hslash, hplace, _⟩ := write_eq_ok.mp h
  exact ⟨_, write_eq_ok.mpr ⟨place, hlocate, hslash, hplace, rfl⟩⟩

end FileTree

/-! ## Runs of the program -/

section Disk
variable {α β : Type}

theorem run_bind_of_run {m : StateM FileTree α} {f : α → StateM FileTree β} {t t' : FileTree}
    {v : α} (h : m.run t = (v, t')) : (m >>= f).run t = (f v).run t' := by
  rw [StateT.run_bind, h]
  rfl

theorem run_read (t : FileTree) (path : String) :
    (FileTree.disk.read path).run t = (t.read path, t) := rfl

theorem run_attempt_of_ok {change : FileTree → Except Obstacle FileTree} {t t' : FileTree}
    (h : change t = .ok t') : (FileTree.attempt change).run t = (.ok (), t') := by
  have hget : (get : StateM FileTree FileTree).run t = (t, t) := rfl
  rw [FileTree.attempt, run_bind_of_run hget, h]
  rfl

theorem run_prepare_of_ok {t t' : FileTree} {path : String} (h : t.prepare path = .ok t') :
    (FileTree.disk.prepare path).run t = (.ok (), t') :=
  run_attempt_of_ok h

theorem run_write_of_ok {t t' : FileTree} {path : String} {content : Text}
    (h : t.write path content = .ok t') :
    (FileTree.disk.write path content).run t = (.ok (), t') :=
  run_attempt_of_ok h

end Disk

/-- Loading rule files leaves the disk as it is. -/
theorem tree_loadRuleFiles (tree : FileTree) (r : Registry) (paths : List String) :
    ((loadRuleFiles FileTree.disk r paths).run tree).2 = tree := by
  induction paths generalizing r with
  | nil => rfl
  | cons path paths ih =>
    rw [loadRuleFiles, run_bind_of_run (run_read tree path)]
    cases tree.read path with
    | error e => rfl
    | ok text =>
      dsimp only
      cases r.load text with
      | error f => rfl
      | ok loaded => exact ih loaded.2

variable {tree : FileTree} {o : Options} {path : String} {text : Text}

/-- Without filters the program delivers the records that it reads. -/
theorem run_filterFile_of_noFilters (hfilters : o.filters = []) (hread : tree.read path = .ok text)
    (r : Registry) :
    ∃ told, (filterFile FileTree.disk o r path).run tree =
      (deliver FileTree.disk o told (recordBlocks text) (recordBlocks text)).run tree := by
  refine ⟨if o.verbose then announcement o path [] else [], ?_⟩
  rw [filterFile, run_bind_of_run (run_read tree path), hread, hfilters]
  rfl

/-- What the program writes is a text, unchanged: a file has the text, and on the
console at most a newline is added to it. -/
def Writes (o : Options) (text : Text) (result : Outcome × FileTree) : Prop :=
  match o.output with
  | none => result.1.out = text ∨ result.1.out = text ++ ['\n']
  | some path => result.2.read path = .ok text

/-- What is delivered are the records, one directly after the other. -/
theorem run_deliver (houtput : ∀ out ∈ o.output, tree.Accepts out) (told : List String)
    (input output : List Text) :
    let result := (deliver FileTree.disk o told input output).run tree
    result.1.code = 0 ∧
      match o.output with
      | none => result.1.out = endLine output.flatten
      | some path => result.2.read path = .ok output.flatten := by
  cases ho : o.output with
  | none =>
    unfold deliver
    rw [ho]
    exact ⟨rfl, rfl⟩
  | some out =>
    obtain ⟨t₁, content, t₂, hprepare, hwrite⟩ := houtput out ho
    -- a place that takes some content takes any
    obtain ⟨t₃, hwrite⟩ := FileTree.exists_write hwrite output.flatten
    have hrun : (deliver FileTree.disk o told input output).run tree =
        ({ err := inLines (told ++
            if o.verbose then
              ["Records: " ++ toString input.length ++ " -> " ++ toString output.length]
            else []) }, t₃) := by
      unfold deliver
      rw [ho]
      dsimp only
      rw [run_bind_of_run (run_prepare_of_ok hprepare)]
      dsimp only
      rw [run_bind_of_run (run_write_of_ok hwrite)]
      rfl
    rw [hrun]
    exact ⟨rfl, FileTree.read_of_write hwrite⟩

/-- The records of a text, one directly after the other, are the text exactly if no
line but the first begins a record. -/
theorem writes_iff (result : Outcome × FileTree)
    (hresult : match o.output with
      | none => result.1.out = endLine (recordBlocks text).flatten
      | some path => result.2.read path = .ok (recordBlocks text).flatten) :
    Writes o text result ↔ ∀ l ∈ (Text.lines text).tail, hasLevel 0 l = false := by
  unfold Writes
  constructor
  · intro h l hl
    by_contra hne
    -- what is written begins with the records, and it should begin with the text
    have hlost := append_flatten_recordBlocks_ne ⟨l, hl, by simpa using hne⟩
    cases ho : o.output with
    | none =>
      rw [ho] at h hresult
      obtain ⟨u, hu⟩ : ∃ u, result.1.out = (recordBlocks text).flatten ++ u := by
        rcases endLine_eq (recordBlocks text).flatten with hend | hend
        · exact ⟨[], by rw [hresult, hend, List.append_nil]⟩
        · exact ⟨['\n'], by rw [hresult, hend]⟩
      obtain ⟨v, hv⟩ : ∃ v, result.1.out = text ++ v := by
        rcases h with h | h
        · exact ⟨[], by rw [h, List.append_nil]⟩
        · exact ⟨['\n'], h⟩
      exact hlost u v (hu.symm.trans hv)
    | some path =>
      rw [ho] at h hresult
      have heq : (recordBlocks text).flatten = text := Except.ok.inj (hresult.symm.trans h)
      exact hlost [] [] (by rw [heq])
  · intro h
    have hflatten := flatten_recordBlocks h
    rw [hflatten] at hresult
    cases ho : o.output with
    | none =>
      rw [ho] at hresult
      dsimp only at hresult
      rw [hresult]
      exact endLine_eq text
    | some path =>
      rw [ho] at hresult
      exact hresult

/-- **What the program writes without filters.**  Called with a transmission that can
be read, with rule files that can be loaded and without filters to apply, to write to
the console or to a file that can be written, the program succeeds.  It writes its
input unchanged if no line but the first begins a record, and only then. -/
theorem run_passes_iff {args : List String} (ho : Options.ofArgs? args = some o)
    (hlist : o.list = false) (hfilters : o.filters = []) (hinput : o.input = some path)
    {r : Registry}
    (hrules : ((loadRuleFiles FileTree.disk .ofCatalog o.ruleFiles).run tree).1 = .ok r)
    (hread : tree.read path = .ok text) (houtput : ∀ out ∈ o.output, tree.Accepts out) :
    ((run FileTree.disk args).run tree).1.code = 0 ∧
      (Writes o text ((run FileTree.disk args).run tree) ↔
        ∀ l ∈ (Text.lines text).tail, hasLevel 0 l = false) := by
  have hloaded : (loadRuleFiles FileTree.disk .ofCatalog o.ruleFiles).run tree = (.ok r, tree) :=
    Prod.ext hrules (tree_loadRuleFiles tree .ofCatalog o.ruleFiles)
  obtain ⟨told, hfile⟩ := run_filterFile_of_noFilters hfilters hread r
  have hrun : (run FileTree.disk args).run tree =
      (deliver FileTree.disk o told (recordBlocks text) (recordBlocks text)).run tree := by
    rw [← hfile, run, ho]
    dsimp only
    rw [run_bind_of_run hloaded, hlist, hinput]
    rfl
  obtain ⟨hcode, hresult⟩ := run_deliver houtput told (recordBlocks text) (recordBlocks text)
  rw [hrun]
  exact ⟨hcode, writes_iff _ hresult⟩

/-- A disk with a transmission of one record, and one of two. -/
def twoFiles : FileTree where
  entries :=
    [(["one.ged"], some "0 HEAD\n1 SOUR Ada\n".toList),
      (["two.ged"], some "0 HEAD\n0 TRLR\n".toList)]

/-- A record is written to a file in a new directory, unchanged. -/
theorem run_passes_one :
    let args := ["one.ged", "--param", "tree=t", "-v", "-o", "new/copy.ged"]
    ((run FileTree.disk args).run twoFiles).1.code = 0 ∧
      ((run FileTree.disk args).run twoFiles).2.read "new/copy.ged" =
        .ok "0 HEAD\n1 SOUR Ada\n".toList := by
  have hargs : Options.ofArgs? ["one.ged", "--param", "tree=t", "-v", "-o", "new/copy.ged"] =
      some { input := some "one.ged", params := [("tree", "t")], output := some "new/copy.ged",
             verbose := true } := by rfl
  have hread : twoFiles.read "one.ged" = .ok "0 HEAD\n1 SOUR Ada\n".toList := by rfl
  have houtput : ∀ out ∈ some "new/copy.ged", twoFiles.Accepts out := by
    intro out hout
    obtain rfl := Option.mem_some.mp hout
    exact ⟨_, [], _, rfl, rfl⟩
  obtain ⟨hcode, hwrites⟩ := run_passes_iff hargs rfl rfl rfl rfl hread houtput
  exact ⟨hcode, hwrites.mpr (by decide)⟩

/-- Two records come out in one line. -/
theorem not_writes_two :
    ((run FileTree.disk ["two.ged"]).run twoFiles).1.out = "0 HEAD0 TRLR\n".toList ∧
      ¬Writes { input := some "two.ged" } "0 HEAD\n0 TRLR\n".toList
        ((run FileTree.disk ["two.ged"]).run twoFiles) := by
  have hout : ((run FileTree.disk ["two.ged"]).run twoFiles).1.out =
      "0 HEAD0 TRLR\n".toList := by decide
  refine ⟨hout, ?_⟩
  rintro (h | h)
  · exact absurd (hout.symm.trans h) (by decide)
  · exact absurd (hout.symm.trans h) (by decide)

end CommandLine
end Gedcom
