import Gedcom.Proofs.Runs

/-!
# The search finds the first way

All threads of a search run side by side, and an address that has been visited at a place is not
visited there again.  The thread that is dropped could only come to a match with other places
noted; the search may forget it, because the thread that was there before it has come to a match
that is preferred, or both come to nothing (`Runs.agree`).

So `Settled` says of an address what makes it safe to drop a thread there: a thread at this
address comes to nothing, or some thread that waits already comes to a match.  While the threads
of a fork are followed, the address of the fork is visited but not settled yet.  No thread comes
back to it before it is, since heights decrease; this is why `follow_of_runs` asks for settled
addresses only up to the height of the thread that it is about.

`find?_ofNode` is the outcome: a search finds the leftmost place from which the expression has a
way, and there its first way.
-/
namespace Gedcom.Regex

/-! ## Threads of one address -/

/-- Threads at one address and place have one height, and come to a match both or not at all. -/
theorem Runs.agree {prog : Array Instr} {h h' pc : Nat} {s : Spot} {slots : Slots}
    {o o' : Option Slots} (hrun : Runs prog h pc s o)
    (hrun' : Runs prog h' pc { s with slots := slots } o') : h = h' ∧ (o = none ↔ o' = none) := by
  -- The instruction and the place decide how both go on; the slots are only carried along.
  induction hrun generalizing h' slots o' with
  | done hpc => cases hrun' <;> simp_all
  | hit hpc hrest hc _ ih =>
    cases hrun' with
    | hit hpc' hrest' hc' hnext' =>
      obtain ⟨rfl, rfl⟩ := List.cons.inj (hrest.symm.trans hrest')
      exact ⟨rfl, (ih hnext').2⟩
    | miss hpc' hnone =>
      rw [hpc] at hpc'
      cases hpc'
      have hfalse : (some _).any _ = false := hrest ▸ hnone
      simp_all
    | _ => simp_all
  | miss hpc hnone =>
    cases hrun' with
    | hit hpc' hrest' hc' _ =>
      rw [hpc] at hpc'
      cases hpc'
      have hrest : _ = _ := hrest'
      simp_all
    | _ => simp_all
  | holds hpc ha _ ih =>
    cases hrun' with
    | holds hpc' ha' hnext' =>
      obtain ⟨rfl, hnone⟩ := ih hnext'
      exact ⟨rfl, hnone⟩
    | _ => simp_all
  | fails hpc ha =>
    cases hrun' <;> simp_all
  | save hpc _ ih =>
    cases hrun' with
    | save hpc' hnext' =>
      rw [hpc] at hpc'
      cases hpc'
      obtain ⟨rfl, hnone⟩ := ih hnext'
      exact ⟨rfl, hnone⟩
    | _ => simp_all
  | jump hpc _ ih =>
    cases hrun' with
    | jump hpc' hnext' =>
      rw [hpc] at hpc'
      cases hpc'
      obtain ⟨rfl, hnone⟩ := ih hnext'
      exact ⟨rfl, hnone⟩
    | _ => simp_all
  | fork hpc _ _ ihfirst ihsecond =>
    cases hrun' with
    | fork hpc' hfirst' hsecond' =>
      rw [hpc] at hpc'
      cases hpc'
      obtain ⟨rfl, hfirst⟩ := ihfirst hfirst'
      obtain ⟨rfl, hsecond⟩ := ihsecond hsecond'
      refine ⟨rfl, ?_⟩
      rw [Option.or_eq_none_iff, Option.or_eq_none_iff, hfirst, hsecond]
    | _ => simp_all

/-! ## Fronts -/

/-- Threads that wait at a spot come to a match, or to nothing; the first one that comes to a match
counts. -/
inductive Await (prog : Array Instr) (s : Spot) : List Thread → Option Slots → Prop
  | nil : Await prog s [] none
  | cons {t : Thread} {ts : List Thread} {o w : Option Slots}
      (h : Runs prog 0 t.address { s with slots := t.slots } o) (hts : Await prog s ts w) :
      Await prog s (t :: ts) (o.or w)

/-- An address has been visited at a spot. -/
def Front.Visits (front : Front) (s : Spot) (pc : Nat) : Prop :=
  front.visited[pc]? = some (some s.offset)

/-- Threads at an address that are not higher than `height` come to nothing, or else there is a
match already. -/
def SettledTo (prog : Array Instr) (s : Spot) (w : Option Slots) (height pc : Nat) : Prop :=
  ∀ h ≤ height, ∀ slots o, Runs prog h pc { s with slots := slots } o → o = none ∨ w ≠ none

/-- Threads at an address come to nothing, or else there is a match already. -/
def Settled (prog : Array Instr) (s : Spot) (w : Option Slots) (pc : Nat) : Prop :=
  ∀ h, SettledTo prog s w h pc

/-- A front at a spot: no address has been visited at a later place, and the threads that wait come
to `w`. -/
structure Front.Fits (prog : Array Instr) (s : Spot) (front : Front) (w : Option Slots) : Prop where
  size : front.visited.size = prog.size
  visited : ∀ (pc i : Nat), front.visited[pc]? = some (some i) → i ≤ s.offset
  threads : Await prog s front.threads.reverse w

/-- The number of addresses that have not been visited at a spot. -/
def Front.unvisited (front : Front) (s : Spot) : Nat :=
  front.visited.toList.countP (· != some s.offset)

/-- A front with one more address visited. -/
def Front.mark (front : Front) (s : Spot) (pc : Nat) : Front :=
  { front with visited := front.visited.setIfInBounds pc (some s.offset) }

/-- A front with one more thread that waits. -/
def Front.await (front : Front) (t : Thread) : Front :=
  { front with threads := t :: front.threads }

section Await
variable {prog : Array Instr} {s : Spot} {ts ts' : List Thread} {o w w' : Option Slots}

theorem Await.append (h : Await prog s ts w) (h' : Await prog s ts' w') :
    Await prog s (ts ++ ts') (w.or w') := by
  induction h with
  | nil => exact h'
  | cons hrun _ ih =>
    rw [Option.or_assoc]
    exact .cons hrun ih

theorem Await.concat (h : Await prog s ts w) {t : Thread}
    (ht : Runs prog 0 t.address { s with slots := t.slots } o) :
    Await prog s (ts ++ [t]) (w.or o) := by
  have hsingle := Await.cons ht .nil
  rw [Option.or_none] at hsingle
  exact h.append hsingle

theorem Settled.or {pc : Nat} (h : Settled prog s w pc) (o : Option Slots) :
    Settled prog s (w.or o) pc := by
  intro k h' hle slots p hrun
  refine (h k h' hle slots p hrun).imp_right fun hw hor => hw (Option.or_eq_none_iff.mp hor).1

theorem SettledTo.or {pc k : Nat} (h : SettledTo prog s w k pc) (o : Option Slots) :
    SettledTo prog s (w.or o) k pc := by
  intro h' hle slots p hrun
  refine (h h' hle slots p hrun).imp_right fun hw hor => hw (Option.or_eq_none_iff.mp hor).1

/-- An address whose thread has been followed is settled. -/
theorem Runs.settled {h pc : Nat} {slots : Slots}
    (hrun : Runs prog h pc { s with slots := slots } o) (w : Option Slots) :
    Settled prog s (w.or o) pc := by
  intro k h' _ slots' p hrun'
  have hagree := (hrun.agree hrun').2
  by_cases ho : o = none
  · exact .inl (hagree.mp ho)
  · exact .inr fun hor => ho (Option.or_eq_none_iff.mp hor).2

end Await

section Front
variable {prog : Array Instr} {s : Spot} {front : Front} {w o : Option Slots} {pc : Nat}

theorem Front.Fits.mark (h : front.Fits prog s w) (pc : Nat) : (front.mark s pc).Fits prog s w where
  size := by rw [Front.mark, Array.size_setIfInBounds, h.size]
  visited q i hq := by
    rw [Front.mark, Array.getElem?_setIfInBounds] at hq
    split at hq
    · split at hq
      · obtain rfl := Option.some.inj (Option.some.inj hq)
        exact Nat.le_refl _
      · cases hq
    · exact h.visited q i hq
  threads := h.threads

theorem Front.Fits.await (h : front.Fits prog s w) {t : Thread}
    (ht : Runs prog 0 t.address { s with slots := t.slots } o) :
    (front.await t).Fits prog s (w.or o) where
  size := h.size
  visited := h.visited
  threads := by
    rw [Front.await, List.reverse_cons]
    exact h.threads.concat ht

theorem Front.visits_mark (h : front.Fits prog s w) (hpc : pc < prog.size) (q : Nat) :
    (front.mark s pc).Visits s q ↔ q = pc ∨ front.Visits s q := by
  rw [Front.Visits, Front.mark, Array.getElem?_setIfInBounds]
  by_cases hq : pc = q
  · rw [if_pos hq, if_pos (h.size.symm ▸ hpc)]
    exact iff_of_true rfl (.inl hq.symm)
  · rw [if_neg hq, or_iff_right (Ne.symm hq)]
    rfl

theorem Front.unvisited_mark (h : front.Fits prog s w) (hpc : pc < prog.size)
    (hnew : ¬front.Visits s pc) : (front.mark s pc).unvisited s + 1 = front.unvisited s := by
  have hlt : pc < front.visited.toList.length := by
    rw [Array.length_toList, h.size]
    exact hpc
  have hne : (front.visited.toList[pc] != some s.offset) = true := by
    rw [bne_iff_ne]
    intro heq
    refine hnew ?_
    rw [Front.Visits, ← Array.getElem?_toList, List.getElem?_eq_getElem hlt, heq]
  have hpos : 0 < front.visited.toList.countP (· != some s.offset) :=
    List.countP_pos_iff.mpr ⟨_, List.getElem_mem hlt, hne⟩
  rw [Front.unvisited, Front.unvisited, Front.mark, Array.toList_setIfInBounds,
    List.countP_set hlt, hne, if_pos rfl, bne_self_eq_false, if_neg Bool.false_ne_true]
  omega

theorem lt_size_of_runs {h : Nat} (hrun : Runs prog h pc s o) : pc < prog.size := by
  have hsome : ∃ i, prog[pc]? = some i := by
    cases hrun <;> exact ⟨_, ‹_›⟩
  obtain ⟨i, hi⟩ := hsome
  exact (Array.getElem?_eq_some_iff.mp hi).1

end Front

/-! ## Following a thread -/

/-- What following a thread does to a front: the front comes to what the thread comes to, too, and
all addresses that have been visited on the way are settled. -/
structure Follows (prog : Array Instr) (s : Spot) (front : Front) (w : Option Slots)
    (todo : List Thread) (fuel : Nat) (front' : Front) (fuel' : Nat) (o : Option Slots)
    (done : List Thread) : Prop where
  eq : follow prog s.place fuel todo front = follow prog s.place fuel' done front'
  fits : front'.Fits prog s (w.or o)
  unvisited : front'.unvisited s ≤ front.unvisited s
  fuel : fuel + 2 * front'.unvisited s ≤ fuel' + 1 + 2 * front.unvisited s
  settled : ∀ q, front'.Visits s q → front.Visits s q ∨ Settled prog s (w.or o) q

/-- A thread is followed to its end, from every front that is settled up to its height. -/
def Followed (prog : Array Instr) (s : Spot) (h : Nat) (t : Thread) (o : Option Slots) : Prop :=
  ∀ (front : Front) (w : Option Slots) (n : Nat) (ts : List Thread), front.Fits prog s w →
    (∀ q, front.Visits s q → SettledTo prog s w h q) → 2 * front.unvisited s + 1 ≤ n →
      ∃ front' n', Follows prog s front w (t :: ts) n front' n' o ts

section Following
variable {prog : Array Instr} {h pc : Nat} {s : Spot} {slots : Slots} {o w : Option Slots}
  {front : Front} {n : Nat} {ts : List Thread}

/-- A thread at an address that has been visited is dropped. -/
theorem follow_visited (hpc : front.Visits s pc) (slots : Slots) :
    follow prog s.place (n + 1) (⟨pc, slots⟩ :: ts) front = follow prog s.place n ts front := by
  have hvisited : (front.visited[pc]? == some (some s.place.offset)) = true := beq_iff_eq.mpr hpc
  rw [follow, hvisited, if_pos rfl]

/-- A thread at an address that has not been visited executes its instruction. -/
theorem follow_new (hpc : ¬front.Visits s pc) (i : Instr) (slots : Slots) (n : Nat)
    (ts : List Thread) : prog[pc]? = some i →
    follow prog s.place (n + 1) (⟨pc, slots⟩ :: ts) front =
      match i with
      | .chars _ | .done => follow prog s.place n ts ((front.mark s pc).await ⟨pc, slots⟩)
      | .look a =>
        follow prog s.place n
          (if a.holds s.before s.rest.head? then ⟨pc + 1, slots⟩ :: ts else ts) (front.mark s pc)
      | .save i =>
        follow prog s.place n (⟨pc + 1, slots.set i (some s.offset)⟩ :: ts) (front.mark s pc)
      | .jump target => follow prog s.place n (⟨target, slots⟩ :: ts) (front.mark s pc)
      | .fork first second =>
        follow prog s.place n (⟨first, slots⟩ :: ⟨second, slots⟩ :: ts) (front.mark s pc) := by
  intro hi
  have hvisited : (front.visited[pc]? == some (some s.place.offset)) = false :=
    beq_eq_false_iff_ne.mpr hpc
  rw [follow, hvisited, if_neg Bool.false_ne_true, hi]
  cases i <;> rfl

section Run
variable (hrun : Runs prog h pc { s with slots := slots } o)
include hrun

/-- It is enough to follow a thread at an address that has not been visited, and that counts as
visited from now on: the address is settled up to every lower height, because no thread that is
lower comes back to it. -/
theorem followed_of_new
    (hnew : ∀ (front : Front) (w : Option Slots) (n : Nat) (ts : List Thread), ¬front.Visits s pc →
      (front.mark s pc).Fits prog s w →
      (∀ k < h, ∀ q, (front.mark s pc).Visits s q → SettledTo prog s w k q) →
      2 * (front.mark s pc).unvisited s + 2 ≤ n →
        ∃ front' n', follow prog s.place (n + 1) (⟨pc, slots⟩ :: ts) front =
            follow prog s.place n' ts front' ∧
          front'.Fits prog s (w.or o) ∧
          front'.unvisited s ≤ (front.mark s pc).unvisited s ∧
          n + 2 * front'.unvisited s ≤ n' + 2 + 2 * (front.mark s pc).unvisited s ∧
          ∀ q, front'.Visits s q →
            (front.mark s pc).Visits s q ∨ Settled prog s (w.or o) q) :
    Followed prog s h ⟨pc, slots⟩ o := by
  intro front w n ts hfits hsettled hn
  obtain ⟨n, rfl⟩ : ∃ m, n = m + 1 := ⟨n - 1, by omega⟩
  have hlt := lt_size_of_runs hrun
  by_cases hpc : front.Visits s pc
  · -- dropping the thread is right because its address is settled
    have hor : w.or o = w := by
      rcases hsettled pc hpc h (Nat.le_refl _) slots o hrun with rfl | hw
      · exact Option.or_none
      · cases w with
        | none => exact absurd rfl hw
        | some slots => rfl
    exact ⟨front, n, follow_visited hpc _, hor.symm ▸ hfits, Nat.le_refl _, by omega,
      fun q hq => .inl hq⟩
  · have hunvisited := Front.unvisited_mark hfits hlt hpc
    have hmark := Front.visits_mark hfits hlt
    have hlower : ∀ k < h, ∀ q, (front.mark s pc).Visits s q → SettledTo prog s w k q := by
      intro k hk q hq h' hle slots' p hrun'
      rcases (hmark q).mp hq with rfl | hq
      · have heq := (hrun.agree hrun').1
        omega
      · exact hsettled q hq h' (by omega) slots' p hrun'
    obtain ⟨front', n', heq, hfits', hle, hfuel, hsettled'⟩ := hnew front w n ts hpc (hfits.mark pc)
      hlower (by omega)
    refine ⟨front', n', heq, hfits', by omega, by omega, fun q hq => ?_⟩
    rcases hsettled' q hq with hq | hq
    · rcases (hmark q).mp hq with rfl | hq
      · exact .inr (hrun.settled w)
      · exact .inl hq
    · exact .inr hq

/-- A thread that executes one instruction and goes on at one address. -/
theorem followed_of_next {k : Nat} (hk : k < h) {t : Thread} (hnext : Followed prog s k t o)
    (heq : ∀ (front : Front) (n : Nat) (ts : List Thread), ¬front.Visits s pc →
      follow prog s.place (n + 1) (⟨pc, slots⟩ :: ts) front =
        follow prog s.place n (t :: ts) (front.mark s pc)) : Followed prog s h ⟨pc, slots⟩ o := by
  refine followed_of_new hrun fun front w n ts hpc hfits hlower hn => ?_
  obtain ⟨front', n', hfollows⟩ := hnext (front.mark s pc) w n ts hfits (hlower k hk) (by omega)
  have hfuel := hfollows.fuel
  exact ⟨front', n', (heq front n ts hpc).trans hfollows.eq, hfollows.fits, hfollows.unvisited,
    by omega, hfollows.settled⟩

end Run

/-- A thread that consumes a character or is done waits. -/
theorem followed_of_waits (hrun : Runs prog 0 pc { s with slots := slots } o) {i : Instr}
    (hi : prog[pc]? = some i) (hshape : i = .done ∨ ∃ set, i = .chars set) :
    Followed prog s 0 ⟨pc, slots⟩ o := by
  refine followed_of_new hrun fun front w n ts hpc hfits _ _ => ?_
  have heq := follow_new hpc i slots n ts hi
  refine ⟨(front.mark s pc).await ⟨pc, slots⟩, n, ?_, hfits.await hrun, Nat.le_refl _, ?_,
    fun q hq => .inl hq⟩
  · rcases hshape with rfl | ⟨set, rfl⟩ <;> exact heq
  · have hsame : ((front.mark s pc).await ⟨pc, slots⟩).unvisited s =
        (front.mark s pc).unvisited s := rfl
    omega

/-- A thread whose assertion does not hold is dropped. -/
theorem followed_of_fails {a : Assertion} (hi : prog[pc]? = some (.look a))
    (ha : a.holds s.before s.rest.head? = false) : Followed prog s 0 ⟨pc, slots⟩ none := by
  refine followed_of_new (.fails hi ha) fun front w n ts hpc hfits _ _ => ?_
  have heq := follow_new hpc _ slots n ts hi
  simp only [ha, if_neg Bool.false_ne_true] at heq
  refine ⟨front.mark s pc, n, heq, ?_, Nat.le_refl _, by omega, fun q hq => .inl hq⟩
  rw [Option.or_none]
  exact hfits

/-- The second thread of a fork is followed behind the first one. -/
theorem followed_of_fork {k l first second : Nat} {p : Option Slots}
    (hrun : Runs prog (max k l + 1) pc { s with slots := slots } (o.or p))
    (hi : prog[pc]? = some (.fork first second)) (hfirst : Followed prog s k ⟨first, slots⟩ o)
    (hsecond : Followed prog s l ⟨second, slots⟩ p) :
    Followed prog s (max k l + 1) ⟨pc, slots⟩ (o.or p) := by
  refine followed_of_new hrun fun front w n ts hpc hfits hlower hn => ?_
  obtain ⟨front₁, n₁, hfollows₁⟩ := hfirst (front.mark s pc) w n (⟨second, slots⟩ :: ts)
    hfits (hlower k (by omega)) (by omega)
  have hfuel₁ := hfollows₁.fuel
  have hsettled₁ : ∀ q, front₁.Visits s q → SettledTo prog s (w.or o) l q := by
    intro q hq
    rcases hfollows₁.settled q hq with hq | hq
    · exact (hlower l (by omega) q hq).or o
    · exact hq l
  obtain ⟨front₂, n₂, hfollows₂⟩ := hsecond front₁ (w.or o) n₁ ts hfollows₁.fits hsettled₁
    (by omega)
  have hfuel₂ := hfollows₂.fuel
  have hunvisited := Nat.le_trans hfollows₂.unvisited hfollows₁.unvisited
  have hfits₂ := hfollows₂.fits
  rw [Option.or_assoc] at hfits₂
  refine ⟨front₂, n₂, ?_, hfits₂, hunvisited, by omega, fun q hq => ?_⟩
  · exact (follow_new hpc _ slots _ _ hi).trans (hfollows₁.eq.trans hfollows₂.eq)
  · rw [← Option.or_assoc]
    rcases hfollows₂.settled q hq with hq | hq
    · exact (hfollows₁.settled q hq).imp_right (·.or p)
    · exact .inr hq

/-- **A thread is followed to what it comes to.** -/
theorem follow_of_runs (hrun : Runs prog h pc { s with slots := slots } o) :
    Followed prog s h ⟨pc, slots⟩ o := by
  generalize hu : ({ s with slots := slots } : Spot) = u at hrun
  induction hrun generalizing slots with
  | done hi =>
    subst hu
    exact followed_of_waits (.done hi) hi (.inl rfl)
  | hit hi hrest hc hnext _ =>
    subst hu
    exact followed_of_waits (.hit hi hrest hc hnext) hi (.inr ⟨_, rfl⟩)
  | miss hi hnone =>
    subst hu
    exact followed_of_waits (.miss hi hnone) hi (.inr ⟨_, rfl⟩)
  | holds hi ha hnext ih =>
    subst hu
    refine followed_of_next (.holds hi ha hnext) (Nat.lt_succ_self _) (ih rfl) ?_
    intro front n ts hpc
    have heq := follow_new hpc _ slots n ts hi
    simp only [ha, if_true] at heq
    exact heq
  | fails hi ha =>
    subst hu
    exact followed_of_fails hi ha
  | save hi hnext ih =>
    subst hu
    exact followed_of_next (.save hi hnext) (Nat.lt_succ_self _) (ih rfl)
      fun front n ts hpc => follow_new hpc _ slots n ts hi
  | jump hi hnext ih =>
    subst hu
    exact followed_of_next (.jump hi hnext) (Nat.lt_succ_self _) (ih rfl)
      fun front n ts hpc => follow_new hpc _ slots n ts hi
  | fork hi hfirst hsecond ihfirst ihsecond =>
    subst hu
    exact followed_of_fork (.fork hi hfirst hsecond) hi (ihfirst rfl) (ihsecond rfl)

end Following

/-! ## One place after the other -/

/-- A front whose threads come to `w`, with all visited addresses settled. -/
structure Front.Sound (prog : Array Instr) (s : Spot) (front : Front) (w : Option Slots) : Prop
    extends front.Fits prog s w where
  settled : ∀ q, front.Visits s q → Settled prog s w q

section Places
variable {prog : Array Instr} {pc : Nat} {s : Spot} {slots : Slots} {o w : Option Slots}
  {front : Front}

/-- A thread that enters comes behind all others. -/
theorem sound_enter (hrun : ComesTo prog pc { s with slots := slots } o)
    (h : front.Sound prog s w) : (enter prog s.place pc slots front).Sound prog s (w.or o) := by
  obtain ⟨k, hrun⟩ := hrun
  have hsize : front.unvisited s ≤ prog.size := by
    have hle := List.countP_le_length (p := (· != some s.offset)) (l := front.visited.toList)
    rw [Array.length_toList, h.size] at hle
    exact hle
  obtain ⟨front', n', hfollows⟩ := follow_of_runs hrun front w (2 * prog.size + 2) [] h.toFits
    (fun q hq => h.settled q hq k) (by omega)
  have henter : enter prog s.place pc slots front = front' := by
    rw [enter, hfollows.eq]
    cases n' <;> rfl
  rw [henter]
  refine ⟨hfollows.fits, fun q hq => ?_⟩
  rcases hfollows.settled q hq with hq | hq
  · exact (h.settled q hq).or o
  · exact hq

/-- At the next place nothing has been visited and nothing waits. -/
theorem sound_past (h : front.Fits prog s w) (c : Char) (cs : Text) :
    (⟨front.visited, []⟩ : Front).Sound prog (s.past c cs) none where
  size := h.size
  visited pc i hi := Nat.le_succ_of_le (h.visited pc i hi)
  threads := .nil
  settled q hq := by
    have hle := h.visited q (s.offset + 1) hq
    omega

/-- **Threads consume a character** in their order.  What they come to is found at once, or it is
what the threads behind the character come to. -/
theorem advance_of_await {c : Char} {cs : Text} (hrest : s.rest = c :: cs) {ts : List Thread}
    (hts : Await prog s ts o) (h : front.Sound prog (s.past c cs) w) :
    ∃ w', (advance prog (some c) (s.past c cs).place ts front).2.Sound prog (s.past c cs) w' ∧
      w'.or (advance prog (some c) (s.past c cs).place ts front).1 = w.or o := by
  induction hts generalizing front w with
  | nil => exact ⟨w, h, rfl⟩
  | @cons t ts o p hrun _ ih =>
    rw [advance]
    cases hrun with
    | done hpc =>
      rw [hpc]
      exact ⟨w, h, by cases w <;> rfl⟩
    | @hit _ _ _ _ set _ _ hpc hrest' hc hnext =>
      obtain ⟨rfl, rfl⟩ := List.cons.inj (hrest.symm.trans hrest')
      have hsome : (some c).any set.contains = true := hc
      simp only [hpc, hsome, if_true]
      obtain ⟨w', hw', heq⟩ := ih (sound_enter ⟨_, hnext⟩ h)
      exact ⟨w', hw', by rw [heq, Option.or_assoc]⟩
    | @miss _ _ set hpc hnone =>
      have hfalse : (some c).any set.contains = false := by
        have hhead : s.rest.head?.any set.contains = false := hnone
        rwa [hrest] at hhead
      simp only [hpc, hfalse, if_neg Bool.false_ne_true]
      exact ih h
    | fails hpc _ =>
      simp only [hpc]
      exact ih h

/-- At the end of a text only threads that are done count. -/
theorem advance_none (hrest : s.rest = []) {ts : List Thread} (hts : Await prog s ts o)
    (next : Place) (front : Front) : (advance prog none next ts front).1 = o := by
  induction hts with
  | nil => rfl
  | cons hrun _ ih =>
    rw [advance]
    cases hrun with
    | done hpc =>
      rw [hpc]
      rfl
    | hit _ hrest' _ _ => exact absurd (hrest'.symm.trans hrest) (List.cons_ne_nil _ _)
    | miss hpc _ =>
      simp only [hpc, Option.any_none, if_neg Bool.false_ne_true]
      exact ih
    | fails hpc _ =>
      simp only [hpc]
      exact ih

end Places

/-! ## Searches -/

theorem orElse_eq_or {α : Type} (o p : Option α) : (o <|> p) = o.or p := by
  cases o <;> rfl

/-- The places noted by the first way from the leftmost place from which there is a way. -/
def Node.search (n : Node) (fresh : Slots) : (offset : Nat) → (before : Option Char) → Text →
    Option Slots
  | offset, before, [] => (n.ways ⟨offset, before, [], fresh⟩).head?.map (·.slots)
  | offset, before, c :: cs =>
    ((n.ways ⟨offset, before, c :: cs, fresh⟩).head?.map (·.slots)).or
      (n.search fresh (offset + 1) (some c) cs)

/-- **A search finds the first way**, from the threads that wait or from a later place. -/
theorem searchFrom_eq {prog : Array Instr} {n : Node} (fresh : Slots)
    (hstart : ∀ s, ComesTo prog 0 s ((n.ways s).head?.map (·.slots))) {rest : Text} {offset : Nat}
    {before : Option Char} {front : Front} {w : Option Slots}
    (h : front.Sound prog ⟨offset, before, rest, fresh⟩ w) (best : Option Slots) :
    searchFrom prog fresh ⟨offset, before, rest.head?⟩ front best rest =
      w.or (best.or (n.search fresh offset before rest)) := by
  induction rest generalizing offset before front w best with
  | nil =>
    have hended : ∀ {front : Front} {w : Option Slots},
        front.Sound prog ⟨offset, before, [], fresh⟩ w →
          (advance prog none ⟨offset, before, none⟩ front.threads.reverse
            ⟨front.visited, []⟩).1 = w := fun hfront => advance_none rfl hfront.threads _ _
    rw [searchFrom, Node.search, orElse_eq_or]
    cases best with
    | none =>
      have hentered := sound_enter (hstart ⟨offset, before, [], fresh⟩) h
      rw [Option.or_none, Option.none_or]
      exact hended hentered
    | some slots =>
      rw [Option.some_or]
      exact congrArg (Option.or · (some slots)) (hended h)
  | cons c cs ih =>
    -- what the threads that wait come to is found now or waits behind the character
    have hstep : ∀ {front : Front} {w : Option Slots} (best : Option Slots),
        front.Sound prog ⟨offset, before, c :: cs, fresh⟩ w →
          searchFrom prog fresh ⟨offset + 1, some c, cs.head?⟩
              (advance prog (some c) ⟨offset + 1, some c, cs.head?⟩ front.threads.reverse
                ⟨front.visited, []⟩).2
              ((advance prog (some c) ⟨offset + 1, some c, cs.head?⟩ front.threads.reverse
                ⟨front.visited, []⟩).1 <|> best) cs =
            w.or (best.or (n.search fresh (offset + 1) (some c) cs)) := by
      intro front w best hfront
      obtain ⟨w', hw', heq⟩ := advance_of_await rfl hfront.threads (sound_past hfront.toFits c cs)
      rw [Option.none_or] at heq
      have hrest := ih hw' ((advance prog (some c) ⟨offset + 1, some c, cs.head?⟩
        front.threads.reverse ⟨front.visited, []⟩).1 <|> best)
      rw [orElse_eq_or, ← Option.or_assoc, ← Option.or_assoc] at hrest
      have hfound : w'.or (advance prog (some c) ⟨offset + 1, some c, cs.head?⟩
        front.threads.reverse ⟨front.visited, []⟩).1 = w := heq
      rw [hfound, Option.or_assoc] at hrest
      rw [orElse_eq_or]
      exact hrest
    rw [searchFrom]
    cases best with
    | none =>
      have hentered := sound_enter (hstart ⟨offset, before, c :: cs, fresh⟩) h
      have hnext := hstep none hentered
      rw [Option.none_or, Option.or_assoc] at hnext
      rw [Option.none_or, Node.search]
      exact hnext
    | some slots =>
      split
      · rename_i hempty
        have hnil : front.threads = [] := List.isEmpty_iff.mp (by simpa using hempty)
        have hnone := h.threads
        rw [hnil] at hnone
        cases hnone
        rfl
      · exact hstep (some slots) h

/-- The places of a search before anything is noted. -/
def Node.freshSlots (n : Node) : Slots := List.replicate (2 * (ofNode n).groupCount) none

theorem Node.eq_none_of_mem_freshSlots {n : Node} {o : Option Nat} (h : o ∈ n.freshSlots) :
    o = none :=
  List.eq_of_mem_replicate h

/-- There is always room for the whole match. -/
theorem Node.two_le_length_freshSlots (n : Node) : 2 ≤ n.freshSlots.length := by
  have hfold : ∀ (gs : List (Nat × Option String)) (k : Nat),
      k ≤ gs.foldl (fun m g => max m (g.1 + 1)) k := by
    intro gs
    induction gs with
    | nil => exact fun k => Nat.le_refl k
    | cons g gs ih => exact fun k => Nat.le_trans (Nat.le_max_left k _) (ih _)
  have hcount : 1 ≤ (ofNode n).groupCount := hfold _ 1
  rw [freshSlots, List.length_replicate]
  omega

theorem getElem?_replicate_none {size pc i : Nat} :
    (Array.replicate size (none : Option Nat))[pc]? ≠ some (some i) := by
  rw [Array.getElem?_replicate]
  split <;> simp

/-- **The match that is found** is the first way from the leftmost place from which there is
one. -/
theorem find?_ofNode {n : Node} (hn : n.progressive = true) (before : Option Char) (t : Text) :
    (ofNode n).find? before t =
      ((Node.group 0 none n).search n.freshSlots 0 before t).map Match.mk := by
  have hsound : (⟨Array.replicate n.program.size none, []⟩ : Front).Sound n.program
      ⟨0, before, t, n.freshSlots⟩ none :=
    ⟨⟨Array.size_replicate, fun pc i hi => absurd hi getElem?_replicate_none, .nil⟩,
      fun q hq => absurd hq getElem?_replicate_none⟩
  have hsearch := searchFrom_eq n.freshSlots (Node.comesTo_program n hn) hsound none
  rw [Option.none_or, Option.none_or] at hsearch
  exact congrArg (Option.map Match.mk) hsearch

end Gedcom.Regex
