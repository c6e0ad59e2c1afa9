import Gedcom.Engine
import Gedcom.Proofs.OutlineText

/-!
# What a filter leaves of a record

A filter cuts the text of a structure again at every level, and looks its paths up
in a memo.  What it computes can be said without either: `recordRemnant` goes
through the tree of a record once, from the leaves up.  A line is kept if its path
leads to a rule, the entries below it follow in their order, and then the
operations of the rule run, unless the line above leads to the same rule.

`sift_text` says that both are the same, for every record whose lines can be
read: the same text or fault, the same graph, the same operations and conversions
in the same order.  The memo drops out because it only ever repeats what the rules
say (`Follows`).
-/
namespace Gedcom

/-! ## Steps of a run -/

namespace RunM
variable {α β : Type}

theorem run_bind (m : RunM α) (f : α → RunM β) (s : Run) :
    (m >>= f).run s =
      match m.run s with
      | (.ok v, s') => (f v).run s'
      | (.error e, s') => (.error e, s') := by
  show (ExceptT.bindCont f (m.run s).1).run (m.run s).2 = _
  rcases m.run s with ⟨_ | v, s'⟩ <;> rfl

theorem run_bind_of_ok {m : RunM α} {s s' : Run} {v : α} (h : m.run s = (.ok v, s'))
    (f : α → RunM β) : (m >>= f).run s = (f v).run s' := by
  rw [run_bind, h]

theorem run_bind_of_error {m : RunM α} {s s' : Run} {e : Fault} (h : m.run s = (.error e, s'))
    (f : α → RunM β) : (m >>= f).run s = (.error e, s') := by
  rw [run_bind, h]

/-- A step that succeeds has succeeded in both of its parts. -/
theorem exists_of_run_bind {m : RunM α} {f : α → RunM β} {s s' : Run} {w : β}
    (h : (m >>= f).run s = (.ok w, s')) :
    ∃ v s₁, m.run s = (.ok v, s₁) ∧ (f v).run s₁ = (.ok w, s') := by
  rw [run_bind] at h
  cases hfirst : m.run s with
  | mk result s₁ =>
    rw [hfirst] at h
    cases result with
    | error e => cases h
    | ok v => exact ⟨v, s₁, rfl, h⟩

theorem run_map_of_error {m : RunM α} {s s' : Run} {e : Fault} (h : m.run s = (.error e, s'))
    (f : α → β) : (f <$> m).run s = (.error e, s') := by
  rw [map_eq_pure_bind, run_bind_of_error h]

theorem run_pure (v : α) (s : Run) : (pure v : RunM α).run s = (.ok v, s) := rfl

theorem run_get (s : Run) : (get : RunM Run).run s = (.ok s, s) := rfl

theorem run_modify (f : Run → Run) (s : Run) :
    (modify f : RunM PUnit).run s = (.ok ⟨⟩, f s) := rfl

theorem ofExcept_ok (v : α) : (MonadExcept.ofExcept (.ok v : Except Fault α) : RunM α) = pure v :=
  rfl

theorem run_ofExcept (r : Except Fault α) (s : Run) :
    (MonadExcept.ofExcept r : RunM α).run s = (r, s) := by
  cases r <;> rfl

end RunM

/-- A run that has forgotten where the paths met so far lead. -/
def Run.forget (s : Run) : Run := { s with memo := {} }

namespace Line

/-- The tag of a line that can be read. -/
def tagOf (l : Text) : String := ((ofLine? l).map (·.tag)).getD ""

theorem tagOf_of_ofLine? {l : Text} {line : Line} (h : ofLine? l = some line) :
    tagOf l = line.tag := by
  rw [tagOf, h]
  rfl

/-- Only the first line of a text counts. -/
theorem ofTextAt_joinLines {l : Text} (hl : '\n' ∉ l) (level : Nat) (ls : List Text) :
    ofTextAt level (Text.joinLines (l :: ls)) = ofTextAt level l := by
  rw [ofTextAt, ofTextAt, Text.firstLine_joinLines hl, Text.firstLine_eq_self hl]

theorem tagOf_of_ofTextAt {level : Nat} {l : Text} (hl : '\n' ∉ l) {line : Line}
    (h : ofTextAt level l = .ok line) : tagOf l = line.tag := by
  rw [ofTextAt, Text.firstLine_eq_self hl] at h
  split at h
  · rename_i line' hline
    split at h
    · obtain rfl := Except.ok.inj h
      exact tagOf_of_ofLine? hline
    · cases h
  · cases h

theorem ofTextAt_of_isLegible {level : Nat} {l : Text} (hl : isLegible level l = true) :
    ∃ line, ofTextAt level l = .ok line := by
  obtain ⟨line, hline, hlevel⟩ := exists_of_isLegible hl
  rw [ofTextAt, Text.firstLine_eq_self (newline_notMem_of_isLegible hl), hline]
  exact ⟨line, if_pos hlevel⟩

end Line

namespace Application

/-! ## The tree recursion -/

/-- What is left of a line with entries below it, given what is left of those. -/
def entryRemnant (a : Application) (path : List String) (parent : Option Nat) (l : Text)
    (below : List String → Option Nat → RunM Text) : RunM Text := do
  let path := path ++ [Line.tagOf l]
  let found := firstMatch a.rules.patterns path
  let inner ← below path found
  a.finish path parent found ((if found.isSome then l ++ ['\n'] else []) ++ inner)

/-- What is left of an outline that stands below lines with the tags `path`, the
last of which leads to `parent`. -/
def outlineRemnant (a : Application) (path : List String) (parent : Option Nat) :
    Outline → RunM Text
  | .empty => return []
  | .entry l below after => do
    let entry ← a.entryRemnant path parent l fun path found => a.outlineRemnant path found below
    let others ← a.outlineRemnant path parent after
    return entry ++ others

/-- What is left of a record. -/
def recordRemnant (a : Application) (r : Record) : RunM Text :=
  a.entryRemnant [] none r.head fun path found => a.outlineRemnant path found r.below

/-! ## Runs without a memo -/

/-- The rule to which the path of a question leads. -/
def answer (a : Application) (q : Nat × List String) : Option Nat :=
  firstMatch a.rules.patterns q.2

variable {a : Application} {α β : Type}

/-- A step `m` with a memo does what `m'` does without: if the memo of a run says
what the rules say, then it still does after `m`, and apart from the memo `m` and
`m'` have the same result and lead to the same run. -/
def Follows (a : Application) (m m' : RunM α) : Prop :=
  ∀ s : Run, s.memo.Faithful a.answer →
    (m.run s).2.memo.Faithful a.answer ∧ m'.run s.forget = ((m.run s).1, (m.run s).2.forget)

theorem Follows.pure (v : α) : a.Follows (pure v) (pure v) :=
  fun _ hs => ⟨hs, rfl⟩

theorem Follows.bind {m m' : RunM α} {f f' : α → RunM β} (hm : a.Follows m m')
    (hf : ∀ v, a.Follows (f v) (f' v)) : a.Follows (m >>= f) (m' >>= f') := by
  intro s hs
  obtain ⟨hmemo, hrun⟩ := hm s hs
  cases hms : m.run s with
  | mk result s' =>
    rw [hms] at hmemo hrun
    cases result with
    | error e =>
      rw [RunM.run_bind_of_error hms, RunM.run_bind_of_error hrun]
      exact ⟨hmemo, rfl⟩
    | ok v =>
      rw [RunM.run_bind_of_ok hms, RunM.run_bind_of_ok hrun]
      exact hf v s' hmemo

/-- A path is looked up in the memo, or else in the rules. -/
theorem follows_resolve (path : List String) :
    a.Follows (a.resolve path) (pure (firstMatch a.rules.patterns path)) := by
  intro s hs
  obtain ⟨hanswer, hfaithful⟩ := hs.ask (path.length, path)
  refine ⟨hfaithful, ?_⟩
  show (Except.ok (firstMatch a.rules.patterns path), s.forget) =
    (Except.ok (s.memo.ask a.answer (path.length, path)).1, s.forget)
  rw [hanswer]
  rfl

/-- A step that neither asks nor changes the memo. -/
def LeavesMemo (m : RunM α) : Prop :=
  ∀ (s : Run) memo, m.run { s with memo } = ((m.run s).1, { (m.run s).2 with memo })

theorem LeavesMemo.follows {m : RunM α} (h : LeavesMemo m) : a.Follows m m := by
  intro s hs
  have hmemo : (m.run s).2.memo = s.memo := congrArg (fun r => r.2.memo) (h s s.memo)
  exact ⟨hmemo ▸ hs, h s {}⟩

theorem LeavesMemo.bind {m : RunM α} {f : α → RunM β} (hm : LeavesMemo m)
    (hf : ∀ v, LeavesMemo (f v)) : LeavesMemo (m >>= f) := by
  intro s memo
  rw [RunM.run_bind, RunM.run_bind, hm s memo]
  rcases m.run s with ⟨_ | v, s'⟩
  · rfl
  · exact hf v s' memo

theorem leavesMemo_ofExcept (r : Except Fault α) :
    LeavesMemo (MonadExcept.ofExcept r : RunM α) := by
  intro s memo
  rw [RunM.run_ofExcept, RunM.run_ofExcept]

theorem leavesMemo_convert (pattern : String) (t : Text) : LeavesMemo (a.convert pattern t) := by
  intro s memo
  unfold convert
  cases a.filter.hook with
  | none => rfl
  | some hook =>
    simp only [RunM.run_bind, RunM.run_modify, RunM.run_get]
    cases hook pattern t a.params s.graph with
    | error e => rfl
    | ok r => rfl

theorem leavesMemo_runOps (pattern : String) (ops : List ReadyOp) (t : Text) :
    LeavesMemo (a.runOps pattern ops t) := by
  induction ops generalizing t with
  | nil => exact fun _ _ => rfl
  | cons op ops ih =>
    cases op with
    | substitute _ regex replacement => exact ih (regex.substitute replacement.toList t)
    | convert => exact (leavesMemo_convert pattern t).bind ih

/-- When everything below a line is done, either nothing more is done, or the operations of the
rule of the line are carried out; the line above does not lead to this rule then. -/
theorem finish_cases (path : List String) (parent found : Option Nat) (t : Text) :
    a.finish path parent found t = pure t ∨
      ∃ i rule, found = some i ∧ found ≠ parent ∧ a.rules.rules[i]? = some rule ∧ rule.ops ≠ [] ∧
        a.finish path parent found t = (do
          modify fun s => { s with treatments := s.treatments ++ [⟨path, i⟩] }
          a.runOps rule.pattern.text rule.ops t) := by
  cases found with
  | none => exact .inl rfl
  | some i =>
    by_cases hparent : some i = parent
    · exact .inl (if_pos hparent)
    · cases hrule : a.rules.rules[i]? with
      | none =>
        left
        rw [finish, if_neg hparent, hrule]
      | some rule =>
        cases hops : rule.ops.isEmpty with
        | true =>
          left
          simp only [finish, if_neg hparent, hrule, hops, if_true]
        | false =>
          right
          refine ⟨i, rule, rfl, hparent, hrule, List.isEmpty_eq_false_iff.mp hops, ?_⟩
          simp only [finish, if_neg hparent, hrule, hops, Bool.false_eq_true, if_false]

theorem leavesMemo_finish (path : List String) (parent found : Option Nat) (t : Text) :
    LeavesMemo (a.finish path parent found t) := by
  rcases a.finish_cases path parent found t with h | ⟨i, rule, _, _, _, _, h⟩
  · rw [h]
    exact fun _ _ => rfl
  · rw [h]
    exact LeavesMemo.bind (fun _ _ => rfl) fun _ => leavesMemo_runOps _ _ t

/-! ## The text of a record -/

theorem sift_eq (a : Application) (level : Nat) (path : List String) (parent : Option Nat)
    (t : Text) :
    a.sift level path parent t = (do
      let line ← MonadExcept.ofExcept (Line.ofTextAt level t)
      let path := path ++ [line.tag]
      let found ← a.resolve path
      let inner ← (substructureBlocks (level + 1) t).mapM (a.sift (level + 1) path found)
      let own := if found.isSome then Text.firstLine t ++ ['\n'] else []
      a.finish path parent found (own ++ inner.flatten)) := by
  rw [sift]
  simp only [List.mapM_subtype, List.unattach_attach]

/-- The structures of a text, one after the other. -/
def siftAll (a : Application) (level : Nat) (path : List String) (parent : Option Nat)
    (ts : List Text) : RunM Text := do
  let rs ← ts.mapM (a.sift level path parent)
  return rs.flatten

theorem siftAll_cons (level : Nat) (path : List String) (parent : Option Nat) (t : Text)
    (ts : List Text) :
    a.siftAll level path parent (t :: ts) = (do
      let first ← a.sift level path parent t
      let others ← a.siftAll level path parent ts
      return first ++ others) := by
  simp [siftAll, List.mapM_cons]

/-- What a filter does with a line that has entries below it, given what it does with those. -/
def siftEntry (a : Application) (level : Nat) (path : List String) (parent : Option Nat)
    (l : Text) (below : List String → Option Nat → RunM Text) : RunM Text := do
  let _ ← MonadExcept.ofExcept (Line.ofTextAt level l)
  let path := path ++ [Line.tagOf l]
  let found ← a.resolve path
  let inner ← below path found
  a.finish path parent found ((if found.isSome then l ++ ['\n'] else []) ++ inner)

/-- The text of an entry is sifted by going through its line, and through the structures below
it. -/
theorem sift_joinLines {level : Nat} {l : Text} {ls : List Text} (hls : ∀ k ∈ l :: ls, '\n' ∉ k)
    (path : List String) (parent : Option Nat) :
    a.sift level path parent (Text.joinLines (l :: ls)) =
      a.siftEntry level path parent l fun path found =>
        a.siftAll (level + 1) path found
          ((levelBlocks (hasLevel (level + 1)) ls).map Text.joinLines) := by
  have hl : '\n' ∉ l := hls l List.mem_cons_self
  rw [sift_eq, siftEntry, Line.ofTextAt_joinLines hl, substructureBlocks_joinLines hls,
    Text.firstLine_joinLines hl]
  cases hline : Line.ofTextAt level l with
  | error e => rfl
  | ok line =>
    simp only [RunM.ofExcept_ok, pure_bind, Line.tagOf_of_ofTextAt hl hline, siftAll, bind_assoc]

/-- A line that can be read is gone through without a memo, if the entries below it are. -/
theorem follows_siftEntry {level : Nat} {l : Text} {line : Line}
    (hline : Line.ofTextAt level l = .ok line) {below below' : List String → Option Nat → RunM Text}
    (hbelow : ∀ path found, a.Follows (below path found) (below' path found))
    (path : List String) (parent : Option Nat) :
    a.Follows (a.siftEntry level path parent l below) (a.entryRemnant path parent l below') := by
  rw [siftEntry, hline, RunM.ofExcept_ok, pure_bind]
  -- both sides resolve the path, go on below the line and finish it
  show a.Follows
    (do
      let found ← a.resolve (path ++ [Line.tagOf l])
      let inner ← below (path ++ [Line.tagOf l]) found
      a.finish (path ++ [Line.tagOf l]) parent found
        ((if found.isSome then l ++ ['\n'] else []) ++ inner))
    (do
      let found ← (pure (firstMatch a.rules.patterns (path ++ [Line.tagOf l])) : RunM _)
      let inner ← below' (path ++ [Line.tagOf l]) found
      a.finish (path ++ [Line.tagOf l]) parent found
        ((if found.isSome then l ++ ['\n'] else []) ++ inner))
  refine Follows.bind (follows_resolve _) fun found => ?_
  exact (hbelow _ found).bind fun _ => (leavesMemo_finish _ _ _ _).follows

/-- The text of an entry whose line can be read at its level is sifted by going through the
entry. -/
theorem follows_sift_of_isLegible {level : Nat} {l : Text} (hl : Line.isLegible level l = true)
    {ls : List Text} (hls : ∀ k ∈ ls, '\n' ∉ k) {below : List String → Option Nat → RunM Text}
    (hbelow : ∀ path found, a.Follows
      (a.siftAll (level + 1) path found
        ((levelBlocks (hasLevel (level + 1)) ls).map Text.joinLines))
      (below path found))
    (path : List String) (parent : Option Nat) :
    a.Follows (a.sift level path parent (Text.joinLines (l :: ls)))
      (a.entryRemnant path parent l below) := by
  obtain ⟨line, hline⟩ := Line.ofTextAt_of_isLegible hl
  have hnewline := Line.newline_notMem_of_isLegible hl
  rw [sift_joinLines (List.forall_mem_cons.mpr ⟨hnewline, hls⟩)]
  exact follows_siftEntry hline hbelow path parent

/-- **Sifting the structures of an outline goes through the outline.** -/
theorem follows_siftAll {level : Nat} {o : Outline} (ho : o.isLegible level = true)
    (newlines : Nat) (path : List String) (parent : Option Nat) :
    a.Follows
      (a.siftAll level path parent
        ((levelBlocks (hasLevel level) (o.lines ++ List.replicate newlines [])).map
          Text.joinLines))
      (a.outlineRemnant path parent o) := by
  induction o generalizing level newlines path parent with
  | empty =>
    rw [Outline.lines, List.nil_append, Outline.levelBlocks_replicate_nil]
    exact Follows.pure []
  | entry l below after ihbelow ihafter =>
    obtain ⟨hl, hbelow, hafter⟩ := Outline.isLegible_entry.mp ho
    rw [Outline.levelBlocks_entry_append ho, List.map_cons, siftAll_cons, outlineRemnant]
    refine Follows.bind ?_ fun entry => ?_
    · exact follows_sift_of_isLegible hl
        (fun _ hk => Outline.newline_notMem_of_mem_append hbelow hk)
        (fun path found => ihbelow hbelow _ path found) path parent
    · exact Follows.bind (ihafter hafter newlines path parent) fun _ => Follows.pure _

/-- The text of a record is sifted by going through the record. -/
theorem follows_sift_record {r : Record} (hr : r.isLegible = true) (newlines : Nat) :
    a.Follows (a.sift 0 [] none (r.text newlines)) (a.recordRemnant r) := by
  obtain ⟨hhead, hbelow⟩ := Bool.and_eq_true_iff.mp hr
  rw [Record.text_eq_joinLines]
  exact follows_sift_of_isLegible hhead (fun _ hk => Outline.newline_notMem_of_mem_append hbelow hk)
    (fun path found => follows_siftAll hbelow newlines path found) [] none

/-! ## The records of a transmission -/

section Records
variable {ts : List Text} {g : Graph} (hgraph : a.references ts = .ok g) {s s' : Run}
include hgraph

/-- A filter that goes through all records tells how many there were, and to which rules the
paths led. -/
theorem run_eq_of_mapM_ok {outputs : List Text}
    (h : ((ts.flatMap recordBlocks).mapM (a.sift 0 [] none)).run
      { s with graph := g, memo := {} } = (.ok outputs, s')) :
    (a.run ts).run s =
      (.ok (outputs.filter fun t => !t.isEmpty,
        { filter := a.filter.name
          inputs := (ts.flatMap recordBlocks).length
          outputs := (outputs.filter fun t => !t.isEmpty).length
          matched := a.matched s' }), s') := by
  simp only [run, hgraph, RunM.run_bind, RunM.run_ofExcept, RunM.run_modify, h, RunM.run_get]
  rfl

/-- What a filter leaves of texts is what is left of their records, apart from those of
which nothing is left. -/
theorem run_of_mapM_ok {outputs : List Text}
    (h : ((ts.flatMap recordBlocks).mapM (a.sift 0 [] none)).run
      { s with graph := g, memo := {} } = (.ok outputs, s')) :
    ∃ trace, (a.run ts).run s = (.ok (outputs.filter fun t => !t.isEmpty, trace), s') :=
  ⟨_, run_eq_of_mapM_ok hgraph h⟩

/-- A filter fails if it fails on some record. -/
theorem run_of_mapM_error {e : Fault}
    (h : ((ts.flatMap recordBlocks).mapM (a.sift 0 [] none)).run
      { s with graph := g, memo := {} } = (.error e, s')) :
    (a.run ts).run s = (.error e, s') := by
  simp only [run, hgraph, RunM.run_bind, RunM.run_ofExcept, RunM.run_modify, h]

end Records

/-- **The text of a record is filtered like its tree.**  For a record whose lines
can be read, with any number of newlines at its end, sifting the text gives what is
left of the record: apart from the memo, which goes on saying what the rules say,
the two have the same text or fault as their result and leave the same graph, with
the same operations and conversions in the same order. -/
theorem sift_text (a : Application) {r : Record} (hr : r.isLegible = true) (newlines : Nat)
    {s : Run} (hs : s.memo.Faithful a.answer) :
    ((a.sift 0 [] none (r.text newlines)).run s).2.memo.Faithful a.answer ∧
      (a.recordRemnant r).run s.forget =
        (((a.sift 0 [] none (r.text newlines)).run s).1,
          ((a.sift 0 [] none (r.text newlines)).run s).2.forget) :=
  follows_sift_record hr newlines s hs

/-- A filter that keeps the names of individuals and numbers them. -/
def numbering : Application where
  filter :=
    { name := "NumberNames"
      rules := fun _ => .ofList [("INDI", []), ("INDI:NAME", [.convert])]
      hook := some fun _ t _ g =>
        .ok (t.dropLast ++ ' ' :: Nat.toDigits 10 g.nodes.length ++ ['\n'],
          { g with nodes := g.nodes ++ [{ xref := String.ofList t }] }) }
  rules := ⟨[⟨⟨"INDI"⟩, []⟩, ⟨⟨"INDI:NAME"⟩, [.convert]⟩]⟩
  params := {}

/-- An individual with two names, the first of which has a part. -/
def ada : Record where
  head := "0 @I1@ INDI".toList
  below := .entry "1 NAME Ada".toList (.entry "2 GIVN Ada".toList .empty .empty)
    (.entry "1 NAME Countess".toList .empty .empty)

/-- The names of an individual are numbered, and what stands below them is
dropped. -/
theorem sift_text_numbering :
    (((numbering.sift 0 [] none (ada.text 1)).run {}).2.memo.Faithful numbering.answer ∧
      (numbering.recordRemnant ada).run (Run.forget {}) =
        (((numbering.sift 0 [] none (ada.text 1)).run {}).1,
          ((numbering.sift 0 [] none (ada.text 1)).run {}).2.forget)) ∧
      ((numbering.sift 0 [] none (ada.text 1)).run {}).1.toOption =
        some "0 @I1@ INDI\n1 NAME Ada 0\n1 NAME Countess 1\n".toList :=
  have hlegible : ada.isLegible = true := by decide
  ⟨sift_text numbering hlegible 1 (Memo.faithful_empty _), by decide +kernel⟩

end Application

/-- A filter that can be made ready is applied with its rules as they are then. -/
theorem Filter.run_of_compile {f : Filter} {ps : Params} {rules : ReadyRules}
    (hf : f.compile ps = .ok rules) (ts : List Text) :
    f.run ps ts = Application.run ⟨f, rules, ps⟩ ts := by
  rw [Filter.run, hf]
  rfl

end Gedcom
