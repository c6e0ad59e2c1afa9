import Gedcom.Proofs.Results
import Gedcom.Proofs.Ways

/-!
# What a thread comes to

A thread that stands at an address of a program comes to a match or to nothing: it executes the
instruction there, and where this is a fork, what the second thread comes to counts if the first
one comes to nothing (`Runs`).  This is what a thread would come to if it ran alone and to the
end; how many threads run side by side does not matter here.

`Node.takes_code` says that the code of a node takes the ways of the node in their order, and then
goes on behind the code.  It is by induction on the node, for any address and any continuation,
with one lemma for each kind of node (`Node.TakesWays`).  For a repetition without an upper bound
there is an induction on the characters left, too (`takes_star`).
-/
namespace Gedcom.Regex

/-- A thread at an address and a spot comes to a match with the places noted, or to nothing.  The
height counts the instructions that come before the next character. -/
inductive Runs (prog : Array Instr) : (height : Nat) → (pc : Nat) → Spot → Option Slots → Prop
  | done {pc : Nat} {s : Spot} (hpc : prog[pc]? = some .done) : Runs prog 0 pc s (some s.slots)
  | hit {pc k : Nat} {s : Spot} {o : Option Slots} {set : CharSet} {c : Char} {cs : Text}
      (hpc : prog[pc]? = some (.chars set)) (hrest : s.rest = c :: cs)
      (hc : set.contains c = true) (hnext : Runs prog k (pc + 1) (s.past c cs) o) :
      Runs prog 0 pc s o
  | miss {pc : Nat} {s : Spot} {set : CharSet} (hpc : prog[pc]? = some (.chars set))
      (hrest : s.rest.head?.any set.contains = false) : Runs prog 0 pc s none
  | holds {pc k : Nat} {s : Spot} {o : Option Slots} {a : Assertion}
      (hpc : prog[pc]? = some (.look a)) (ha : a.holds s.before s.rest.head? = true)
      (hnext : Runs prog k (pc + 1) s o) : Runs prog (k + 1) pc s o
  | fails {pc : Nat} {s : Spot} {a : Assertion} (hpc : prog[pc]? = some (.look a))
      (ha : a.holds s.before s.rest.head? = false) : Runs prog 0 pc s none
  | save {pc k i : Nat} {s : Spot} {o : Option Slots} (hpc : prog[pc]? = some (.save i))
      (hnext : Runs prog k (pc + 1) (s.note i) o) : Runs prog (k + 1) pc s o
  | jump {pc k target : Nat} {s : Spot} {o : Option Slots}
      (hpc : prog[pc]? = some (.jump target)) (hnext : Runs prog k target s o) :
      Runs prog (k + 1) pc s o
  | fork {pc k l first second : Nat} {s : Spot} {o p : Option Slots}
      (hpc : prog[pc]? = some (.fork first second)) (hfirst : Runs prog k first s o)
      (hsecond : Runs prog l second s p) : Runs prog (max k l + 1) pc s (o.or p)

/-- A thread comes to a match with the places noted, or to nothing. -/
def ComesTo (prog : Array Instr) (pc : Nat) (s : Spot) (o : Option Slots) : Prop :=
  ∃ height, Runs prog height pc s o

/-- A program has some code from an address on. -/
def HasCode (prog : Array Instr) (base : Nat) (code : List Instr) : Prop :=
  code <+: prog.toList.drop base

section HasCode
variable {prog : Array Instr} {base : Nat} {i : Instr} {code code' : List Instr}

theorem HasCode.getElem? (h : HasCode prog base (i :: code)) : prog[base]? = some i := by
  obtain ⟨post, hpost⟩ := h
  rw [← Array.getElem?_toList, ← List.head?_drop, ← hpost]
  rfl

theorem HasCode.tail (h : HasCode prog base (i :: code)) : HasCode prog (base + 1) code := by
  obtain ⟨post, hpost⟩ := h
  refine ⟨post, ?_⟩
  rw [← List.drop_drop, ← hpost]
  rfl

theorem HasCode.left (h : HasCode prog base (code ++ code')) : HasCode prog base code :=
  (List.prefix_append code code').trans h

theorem HasCode.right (h : HasCode prog base (code ++ code')) :
    HasCode prog (base + code.length) code' := by
  obtain ⟨post, hpost⟩ := h
  refine ⟨post, ?_⟩
  rw [← List.drop_drop, ← hpost, List.append_assoc, List.drop_left]

end HasCode

namespace Node

theorem length_inRow {code : Nat → List Instr} {length : Nat}
    (h : ∀ base, (code base).length = length) (n base : Nat) :
    (inRow code length n base).length = n * length := by
  induction n generalizing base with
  | zero => rw [inRow, Nat.zero_mul, List.length_nil]
  | succ n ih => rw [inRow, List.length_append, h, ih, Nat.succ_mul, Nat.add_comm]

theorem length_code (n : Node) (base : Nat) : (n.code base).length = n.codeLength := by
  induction n generalizing base with
  | empty | chars | look => rfl
  | seq a b iha ihb => rw [code, List.length_append, iha, ihb, codeLength]
  | alt a b iha ihb =>
    simp only [code, List.length_cons, List.length_append, iha, ihb, codeLength]
    omega
  | times min max greedy a ih =>
    cases max with
    | none =>
      rw [code, codeLength]
      split
      · simp only [List.length_cons, List.length_append, List.length_nil, ih]
      · simp only [List.length_append, List.length_cons, List.length_nil, length_inRow ih]
    | some max =>
      have hpiece : ∀ leave entry : Nat, (Instr.loop greedy (entry + 1) leave ::
          a.code (entry + 1)).length = a.codeLength + 1 := fun leave entry => by
        rw [List.length_cons, ih]
      rw [code, codeLength, List.length_append, length_inRow ih, length_inRow (hpiece _)]
  | group i name a ih =>
    simp only [code, List.length_cons, List.length_append, List.length_nil, ih, codeLength]

end Node

/-! ## Code of a part -/

section Parts
variable {prog : Array Instr}

theorem ComesTo.holds {pc : Nat} {s : Spot} {o : Option Slots} {a : Assertion}
    (hpc : prog[pc]? = some (.look a)) (ha : a.holds s.before s.rest.head? = true)
    (h : ComesTo prog (pc + 1) s o) : ComesTo prog pc s o := by
  obtain ⟨k, hk⟩ := h
  exact ⟨_, .holds hpc ha hk⟩

theorem ComesTo.save {pc i : Nat} {s : Spot} {o : Option Slots} (hpc : prog[pc]? = some (.save i))
    (h : ComesTo prog (pc + 1) (s.note i) o) : ComesTo prog pc s o := by
  obtain ⟨k, hk⟩ := h
  exact ⟨_, .save hpc hk⟩

theorem ComesTo.jump {pc target : Nat} {s : Spot} {o : Option Slots}
    (hpc : prog[pc]? = some (.jump target)) (h : ComesTo prog target s o) :
    ComesTo prog pc s o := by
  obtain ⟨k, hk⟩ := h
  exact ⟨_, .jump hpc hk⟩

theorem ComesTo.fork {pc first second : Nat} {s : Spot} {o p : Option Slots}
    (hpc : prog[pc]? = some (.fork first second)) (hfirst : ComesTo prog first s o)
    (hsecond : ComesTo prog second s p) : ComesTo prog pc s (o.or p) := by
  obtain ⟨k, hk⟩ := hfirst
  obtain ⟨l, hl⟩ := hsecond
  exact ⟨_, .fork hpc hk hl⟩

/-- From an address on a thread takes a step, in all ways in their order, and goes on at another
address. -/
def Takes (prog : Array Instr) (entry leave : Nat) (f : Spot → List Spot) : Prop :=
  ∀ (s : Spot) (k : Spot → Option Slots), (∀ t ∈ f s, ComesTo prog leave t (k t)) →
    ComesTo prog entry s ((f s).findSome? k)

variable {f g : Spot → List Spot} {entry middle leave : Nat}

theorem Takes.seq (hf : Takes prog entry middle f) (hg : Takes prog middle leave g) :
    Takes prog entry leave fun s => (f s).flatMap g := by
  intro s k hk
  rw [findSome?_flatMap]
  exact hf s _ fun t ht => hg t k fun u hu => hk u (List.mem_flatMap.mpr ⟨t, ht, hu⟩)

theorem Takes.refl (prog : Array Instr) (entry : Nat) : Takes prog entry entry fun s => [s] := by
  intro s k hk
  have hs := hk s (List.mem_singleton_self s)
  rw [List.findSome?_singleton]
  exact hs

theorem Takes.jump (hf : Takes prog entry middle f) (hpc : prog[middle]? = some (.jump leave)) :
    Takes prog entry leave f := fun s k hk => hf s k fun t ht => (hk t ht).jump hpc

/-- A fork that enters a step or leaves. -/
theorem ComesTo.loop {greedy : Bool} {pc : Nat} {s : Spot} {k : Spot → Option Slots}
    {ts : List Spot}
    (hpc : prog[pc]? = some (Instr.loop greedy entry leave))
    (henter : ComesTo prog entry s (ts.findSome? k)) (hleave : ComesTo prog leave s (k s)) :
    ComesTo prog pc s ((if greedy then ts ++ [s] else s :: ts).findSome? k) := by
  cases greedy with
  | true =>
    have hfork := henter.fork hpc hleave
    rw [if_pos rfl, List.findSome?_append, List.findSome?_singleton]
    exact hfork
  | false =>
    have hfork := hleave.fork hpc henter
    rw [if_neg Bool.false_ne_true, ← List.singleton_append, List.findSome?_append,
      List.findSome?_singleton]
    exact hfork

/-- Pieces of code in a row take one step each. -/
theorem takes_again {code : Nat → List Instr} {length : Nat}
    (hlength : ∀ base, (code base).length = length)
    (hcode : ∀ base, HasCode prog base (code base) → Takes prog base (base + length) f) (n : Nat)
    {base : Nat} (h : HasCode prog base (Node.inRow code length n base)) :
    Takes prog base (base + n * length) (again f n) := by
  induction n generalizing base with
  | zero =>
    rw [Nat.zero_mul]
    exact .refl prog base
  | succ n ih =>
    have hrest := h.right
    rw [hlength] at hrest
    have hshape : base + (n + 1) * length = base + length + n * length := by
      rw [Nat.succ_mul]
      omega
    rw [hshape]
    exact (hcode base h.left).seq (ih hrest)

/-- The last of some pieces of code in a row. -/
theorem hasCode_last {code : Nat → List Instr} {length : Nat}
    (hlength : ∀ base, (code base).length = length) (n : Nat) {base : Nat}
    (h : HasCode prog base (Node.inRow code length (n + 1) base)) :
    HasCode prog (base + n * length) (code (base + n * length)) := by
  induction n generalizing base with
  | zero =>
    rw [Nat.zero_mul]
    exact h.left
  | succ n ih =>
    have hrest := h.right
    rw [hlength] at hrest
    have hshape : base + (n + 1) * length = base + length + n * length := by
      rw [Nat.succ_mul]
      omega
    rw [hshape]
    exact ih hrest

/-- Pieces of code in a row that can all be left take up to one step each. -/
theorem takes_upTo {greedy : Bool} {code : Nat → List Instr} {length : Nat}
    (hlength : ∀ base, (code base).length = length)
    (hcode : ∀ base, HasCode prog base (code base) → Takes prog base (base + length) f) (n : Nat)
    {base : Nat} (hleave : leave = base + n * (length + 1))
    (h : HasCode prog base (Node.inRow
      (fun entry => Instr.loop greedy (entry + 1) leave :: code (entry + 1)) (length + 1) n base)) :
    Takes prog base leave (upTo greedy f n) := by
  induction n generalizing base with
  | zero =>
    rw [Nat.zero_mul] at hleave
    rw [hleave]
    exact .refl prog _
  | succ n ih =>
    have hrest := h.right
    rw [List.length_cons, hlength] at hrest
    have hbody : Takes prog (base + 1) (base + 1 + length) f := hcode _ h.left.tail
    have hmore : Takes prog (base + (length + 1)) leave (upTo greedy f n) :=
      ih (by rw [hleave, Nat.succ_mul]; omega) hrest
    rw [← Nat.add_assoc, Nat.add_right_comm] at hmore
    intro s k hk
    exact ComesTo.loop h.left.getElem? (hbody.seq hmore s k fun t ht => hk t
      (mem_upTo_succ.mpr (.inr (List.mem_flatMap.mp ht)))) (hk s (mem_upTo_self greedy f _ s))

/-- A fork in front of a step that leads back to the fork takes any number of steps. -/
theorem takes_star {greedy : Bool} {pc back : Nat} (hf : Consumes f)
    (hpc : prog[pc]? = some (Instr.loop greedy entry leave)) (hbody : Takes prog entry back f)
    (hback : ∀ s o, ComesTo prog pc s o → ComesTo prog back s o) :
    Takes prog pc leave (star greedy f) := by
  intro s
  induction hn : s.rest.length using Nat.strongRecOn generalizing s with
  | _ n ih =>
    intro k hk
    rw [star_eq hf] at hk ⊢
    have hmore : ComesTo prog entry s (((f s).flatMap (star greedy f)).findSome? k) := by
      rw [findSome?_flatMap]
      refine hbody s _ fun t ht => hback t _ (ih _ (by rw [← hn]; exact hf s t ht) t rfl k ?_)
      intro u hu
      refine hk u ?_
      have hmem : u ∈ (f s).flatMap (star greedy f) := List.mem_flatMap.mpr ⟨t, ht, hu⟩
      cases greedy
      · exact List.mem_cons_of_mem _ hmem
      · exact List.mem_append_left _ hmem
    have hself : ComesTo prog leave s (k s) := hk s (by cases greedy <;> simp)
    exact ComesTo.loop hpc hmore hself

end Parts

/-! ## Code of a node -/

namespace Node

/-- Wherever the code of a node stands in a program, it takes the ways of the node in their order
and goes on behind it. -/
def TakesWays (prog : Array Instr) (n : Node) : Prop :=
  ∀ base, HasCode prog base (n.code base) → Takes prog base (base + n.codeLength) n.ways

section TakesWays
variable {prog : Array Instr} {a b : Node}

theorem takesWays_empty (prog : Array Instr) : empty.TakesWays prog := fun base _ =>
  .refl prog base

theorem takesWays_chars (prog : Array Instr) (set : CharSet) (bytes : Bool) :
    (chars set bytes).TakesWays prog := by
  intro base h s k hk
  rw [ways] at hk ⊢
  cases hrest : s.rest with
  | nil => exact ⟨0, .miss h.getElem? (by rw [hrest]; rfl)⟩
  | cons c cs =>
    simp only [hrest] at hk
    by_cases hc : set.contains c = true
    · simp only [hc, if_true] at hk ⊢
      obtain ⟨l, hl⟩ := hk _ (List.mem_singleton_self _)
      rw [List.findSome?_singleton]
      exact ⟨0, .hit h.getElem? hrest hc hl⟩
    · simp only [hc]
      exact ⟨0, .miss h.getElem? (by rw [hrest]; simpa using hc)⟩

theorem takesWays_look (prog : Array Instr) (l : Assertion) : (look l).TakesWays prog := by
  intro base h s k hk
  rw [ways] at hk ⊢
  by_cases hl : l.holds s.before s.rest.head? = true
  · rw [if_pos hl] at hk ⊢
    rw [List.findSome?_singleton]
    exact (hk s (List.mem_singleton_self s)).holds h.getElem? hl
  · rw [if_neg hl]
    exact ⟨0, .fails h.getElem? (Bool.eq_false_iff.mpr hl)⟩

theorem TakesWays.seq (ha : a.TakesWays prog) (hb : b.TakesWays prog) :
    (a.seq b).TakesWays prog := by
  intro base h
  have hsecond := h.right
  rw [length_code] at hsecond
  rw [codeLength, ← Nat.add_assoc]
  exact (ha _ h.left).seq (hb _ hsecond)

/-- The jump behind the first branch leads past the second one. -/
theorem TakesWays.alt (ha : a.TakesWays prog) (hb : b.TakesWays prog) :
    (a.alt b).TakesWays prog := by
  intro base h
  have hrest := h.tail.right
  rw [length_code] at hrest
  have hjump := hrest.getElem?
  have hsecond := hrest.tail
  have hentry : base + 1 + a.codeLength + 1 = base + a.codeLength + 2 := by omega
  have hleave : base + a.codeLength + 2 + b.codeLength = base + (a.alt b).codeLength := by
    rw [codeLength]
    omega
  rw [hentry] at hsecond
  rw [hleave] at hjump
  have hfirstTakes := (ha _ h.tail.left).jump hjump
  have hsecondTakes := hb _ hsecond
  rw [hleave] at hsecondTakes
  intro s k hk
  rw [ways] at hk ⊢
  rw [List.findSome?_append]
  exact ComesTo.fork h.getElem?
    (hfirstTakes s k fun t ht => hk t (List.mem_append_left _ ht))
    (hsecondTakes s k fun t ht => hk t (List.mem_append_right _ ht))

/-- A body behind which there is a jump back to the fork. -/
theorem TakesWays.star (ha : a.TakesWays prog) (hnullable : a.nullable = false) (greedy : Bool) :
    (a.times 0 none greedy).TakesWays prog := by
  intro base h
  rw [code] at h
  simp only [if_pos, hnullable, if_neg Bool.false_ne_true] at h
  have hjump := h.tail.right.getElem?
  rw [length_code] at hjump
  have hstar := takes_star (consumes_of_nullable_eq_false hnullable) h.getElem?
    (ha _ h.tail.left) fun s o ho => ho.jump hjump
  intro s k hk
  rw [ways, again, List.flatMap_singleton] at hk ⊢
  exact hstar s k hk

/-- Bodies in a row, of which the last one has a fork behind it that leads back to it. -/
theorem TakesWays.atLeast (ha : a.TakesWays prog) (hconsumes : Consumes a.ways) (m : Nat)
    (greedy : Bool) : (a.times (m + 1) none greedy).TakesWays prog := by
  intro base h
  rw [code] at h
  simp only [if_neg (Nat.succ_ne_zero m), Nat.add_sub_cancel] at h
  have hloop := h.right.getElem?
  rw [length_inRow (length_code a)] at hloop
  have hlast : HasCode prog (base + m * a.codeLength) (a.code (base + m * a.codeLength)) :=
    hasCode_last (length_code a) m h.left
  have hback : base + m * a.codeLength + a.codeLength = base + (m + 1) * a.codeLength := by
    rw [Nat.succ_mul]
    omega
  have hbody := ha _ hlast
  rw [hback] at hloop hbody
  have hagain := takes_again (length_code a) ha (m + 1) h.left
  have hstar := takes_star hconsumes hloop hbody fun _ _ ho => ho
  rw [codeLength, if_neg (Nat.succ_ne_zero m), ← Nat.add_assoc]
  exact hagain.seq hstar

/-- Bodies in a row, and behind them others each of which can be left out. -/
theorem TakesWays.between (ha : a.TakesWays prog) (min max : Nat) (greedy : Bool) :
    (a.times min (some max) greedy).TakesWays prog := by
  intro base h
  have hrest := h.right
  rw [length_inRow (length_code a)] at hrest
  have hagain := takes_again (length_code a) ha min h.left
  have hmore := takes_upTo (length_code a) ha (max - min) rfl hrest
  rw [codeLength, ← Nat.add_assoc]
  exact hagain.seq hmore

theorem TakesWays.group (ha : a.TakesWays prog) (i : Nat) (name : Option String) :
    (group i name a).TakesWays prog := by
  intro base h
  have hbody := ha _ h.tail.left
  have hsave := h.tail.right.getElem?
  rw [length_code] at hsave
  have hleave : base + 1 + a.codeLength + 1 = base + (Node.group i name a).codeLength := by
    rw [codeLength]
    omega
  intro s k hk
  rw [ways] at hk ⊢
  rw [List.findSome?_map]
  refine ComesTo.save h.getElem? (hbody _ _ fun t ht => ComesTo.save hsave ?_)
  rw [hleave]
  exact hk _ (List.mem_map_of_mem ht)

end TakesWays

/-- **The code of a node takes the ways of the node**, in their order, and goes on behind it. -/
theorem takes_code (prog : Array Instr) (n : Node) (hn : n.progressive = true) :
    n.TakesWays prog := by
  induction n with
  | empty => exact takesWays_empty prog
  | chars set bytes => exact takesWays_chars prog set bytes
  | look l => exact takesWays_look prog l
  | seq a b iha ihb =>
    obtain ⟨ha, hb⟩ := Bool.and_eq_true_iff.mp hn
    exact (iha ha).seq (ihb hb)
  | alt a b iha ihb =>
    obtain ⟨ha, hb⟩ := Bool.and_eq_true_iff.mp hn
    exact (iha ha).alt (ihb hb)
  | times min max greedy a ih =>
    cases max with
    | none =>
      -- without an upper bound the turns end only because each takes a character
      obtain ⟨ha, hnullable⟩ := Bool.and_eq_true_iff.mp hn
      replace hnullable : a.nullable = false := by simpa using hnullable
      cases min with
      | zero => exact (ih ha).star hnullable greedy
      | succ m => exact (ih ha).atLeast (consumes_of_nullable_eq_false hnullable) m greedy
    | some max => exact (ih hn).between min max greedy
  | group i name a ih => exact (ih hn).group i name

end Node

/-- **The program of an expression** comes to the first way of the expression. -/
theorem Node.comesTo_program (n : Node) (hn : n.progressive = true) (s : Spot) :
    ComesTo n.program 0 s (((group 0 none n).ways s).head?.map (·.slots)) := by
  have hcode : HasCode n.program 0 ((group 0 none n).code 0 ++ [Instr.done]) := by
    refine ⟨[], ?_⟩
    simp [program, code]
  have htakes := (group 0 none n).takes_code n.program hn _ hcode.left
  have hdone := hcode.right.getElem?
  rw [length_code] at hdone
  have hfirst : ∀ ts : List Spot, ts.findSome? (fun t => some t.slots) = ts.head?.map (·.slots) :=
    fun ts => by cases ts <;> rfl
  rw [← hfirst]
  exact htakes s _ fun t _ => ⟨0, .done hdone⟩

end Gedcom.Regex
