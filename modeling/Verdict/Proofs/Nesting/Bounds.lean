import Verdict.Proofs.Nesting.Trace
import Verdict.Proofs.Refusal

namespace Verdict

namespace Expr

mutual

def nodes : Expr → List Expr
  | negate e s => negate e s :: e.nodes
  | binary o l r s => binary o l r s :: (l.nodes ++ r.nodes)
  | call f as s => call f as s :: (f.nodes ++ nodesAll as)
  | e => [e]

def nodesAll : List Expr → List Expr
  | [] => []
  | e :: es => e.nodes ++ nodesAll es

end

end Expr

namespace Watch

open Verdict.Expr (Measured Reading Reader follow closed nodes nodesAll)

/-- At every moment at most `maxNesting` of the expressions opened so far are not closed yet, and none when a top-level
expression begins; the counter stands at their number. -/
structure Sound (depth : Nat) (events : List Event) : Prop where
  count_eq : depth + events.count .closed = events.count .opened
  bounded : ∀ p, p <+: events →
    p.count .closed ≤ p.count .opened ∧ p.count .opened ≤ p.count .closed + maxNesting
  level : ∀ p n, p ++ [.statement n] <+: events → n = 0 ∧ p.count .opened = p.count .closed
  height_eq : ∀ e n, .measured e n ∈ events → n = e.height

variable {α β : Type} {w : Watch} {c : Cursor} {depth depth' room fuel power : Nat} {events events' : List Event}
  {e : Expr} {m : Measured} {read : WatchedReader} {plain : Reader}

namespace Sound

lemma empty : Sound 0 [] :=
  ⟨rfl, by simp, by simp, by simp⟩

lemma depth_le (h : Sound depth events) : depth ≤ maxNesting := by
  have hb := h.bounded events List.prefix_rfl
  have hc := h.count_eq
  omega

lemma note {x : Event} (h : Sound depth events)
    (hc : depth' + (events ++ [x]).count .closed = (events ++ [x]).count .opened) (hd : depth' ≤ maxNesting)
    (hl : ∀ n, x = .statement n → n = 0 ∧ depth = 0) (hm : ∀ e n, x = .measured e n → n = e.height) :
    Sound depth' (events ++ [x]) := by
  refine ⟨hc, ?_, ?_, ?_⟩
  · intro p hp
    rcases List.prefix_concat_iff.1 hp with rfl | hp
    · omega
    · exact h.bounded p hp
  · intro p n hp
    rcases List.prefix_concat_iff.1 hp with he | hp
    · obtain ⟨rfl, hx⟩ := List.append_inj' he rfl
      obtain ⟨hn, rfl⟩ := hl n (List.head_eq_of_cons_eq hx).symm
      have hz := h.count_eq
      exact ⟨hn, by omega⟩
    · exact h.level p n hp
  · intro e n he
    rcases List.mem_append.1 he with he | he
    · exact h.height_eq e n he
    · exact hm e n (List.mem_singleton.1 he).symm

lemma opened (h : Sound depth events) (hd : depth < maxNesting) : Sound (depth + 1) (events ++ [.opened]) := by
  have hc := h.count_eq
  refine h.note ?_ hd (by simp) (by simp)
  simp
  omega

lemma closed (h : Sound (depth + 1) events) : Sound depth (events ++ [.closed]) := by
  have hc := h.count_eq
  have hd := h.depth_le
  refine h.note ?_ (by omega) (by simp) (by simp)
  simp
  omega

lemma statement (h : Sound 0 events) : Sound 0 (events ++ [.statement 0]) := by
  have hc := h.count_eq
  refine h.note ?_ (Nat.zero_le _) (by simp) (by simp)
  simpa using hc

lemma measured (h : Sound depth events) : Sound depth (events ++ [.measured e e.height]) := by
  have hc := h.count_eq
  refine h.note ?_ h.depth_le (by simp) ?_
  · simpa using hc
  · rintro e' n hx
    obtain ⟨rfl, rfl⟩ := Event.measured.inj hx
    rfl

end Sound

/-- A watched reading comes to what the reading comes to, leaves the counter as it was, and adds to the record what
keeps it sound. -/
structure Agrees (w : Watch) (r : Reading α) (r' : Watched α) (good : α → List Event → Prop) : Prop where
  value : r'.1 = r.1
  cursor : r'.2.cursor = r.2
  depth : r'.2.depth = w.depth
  grows : w.events <+: r'.2.events
  sound : Sound w.depth w.events → Sound w.depth r'.2.events
  good : ∀ a, r.1 = some a → good a r'.2.events

variable {good : α → List Event → Prop} {good' : β → List Event → Prop} {r : Reading α} {r' : Watched α}

namespace Agrees

lemma eq (h : Agrees w r r' good) : r = (r'.1, r'.2.cursor) :=
  Prod.ext h.value.symm h.cursor.symm

lemma on {f : Cursor → Cursor} (h : Agrees (w.on f) r r' good) : Agrees w r r' good :=
  ⟨h.value, h.cursor, h.depth, h.grows, h.sound, h.good⟩

lemma lift {f : Cursor → Reading α} (h : ∀ a, (f w.cursor).1 = some a → good a w.events) :
    Agrees w (f w.cursor) (w.lift f) good :=
  ⟨rfl, rfl, rfl, List.prefix_rfl, id, h⟩

lemma trans {s : Reading β} {s' : Watched β} (h : Agrees w r r' good) (hs : Agrees r'.2 s s' good') :
    Agrees w s s' good' := by
  refine ⟨hs.value, hs.cursor, hs.depth.trans h.depth, h.grows.trans hs.grows, fun hw => ?_, hs.good⟩
  have hm := hs.sound
  rw [h.depth] at hm
  exact hm (h.sound hw)

lemma change {b : Option β} (h : Agrees w r r' good) (hb : ∀ x, b = some x → good' x r'.2.events) :
    Agrees w (b, r.2) (b, r'.2) good' :=
  ⟨rfl, h.cursor, h.depth, h.grows, h.sound, hb⟩

lemma follow {k : α → Cursor → Reading β} {k' : α → Watch → Watched β} (h : Agrees w r r' good)
    (hk : ∀ a w', w'.depth = w.depth → w.events <+: w'.events → good a w'.events →
      Agrees w' (k a w'.cursor) (k' a w') good') : Agrees w (follow r k) (follow r' k') good' := by
  obtain rfl := h.eq
  obtain ⟨a, w'⟩ := r'
  cases a with
  | none => exact h.change (by simp)
  | some a => exact h.trans (hk a w' h.depth h.grows (h.good a rfl))

lemma expectClosing (h : Agrees w r r' good) : Agrees w (closed r) (expectClosing r') good := by
  obtain rfl := h.eq
  obtain ⟨a, w'⟩ := r'
  rw [Watch.expectClosing, closed]
  rcases w'.cursor.expect .rparen with ⟨_ | _, d⟩
  · exact ⟨rfl, rfl, h.depth, h.grows, h.sound, by simp⟩
  · exact ⟨rfl, rfl, h.depth, h.grows, h.sound, h.good⟩

end Agrees

structure Noted (m : Measured) (events : List Event) : Prop where
  height_eq : m.2 = m.1.height
  height_le : m.1.height ≤ maxNesting
  nodes : ∀ n ∈ m.1.nodes, .measured n n.height ∈ events

def Ready (m : Measured) (events : List Event) : Prop :=
  Noted m (events ++ [.measured m.1 m.2])

structure NotedAll (m : List Expr × Nat) (events : List Event) : Prop where
  height_eq : m.2 = Expr.heightAll m.1
  nodes : ∀ n ∈ nodesAll m.1, .measured n n.height ∈ events

lemma Noted.mono (h : Noted m events) (hp : events <+: events') : Noted m events' :=
  ⟨h.height_eq, h.height_le, fun n hn => hp.subset (h.nodes n hn)⟩

lemma Noted.ready (h : Noted m events) : Ready m events :=
  h.mono (List.prefix_append _ _)

lemma NotedAll.nil : NotedAll ([], 0) events :=
  ⟨rfl, by simp [nodesAll]⟩

lemma Noted.cons_all {a : List Expr × Nat} (h : Noted m events) (hs : NotedAll a events) :
    NotedAll (m.1 :: a.1, max m.2 a.2) events := by
  refine ⟨?_, ?_⟩
  · rw [Expr.heightAll, h.height_eq, hs.height_eq]
  · intro n hn
    rcases List.mem_append.1 hn with hn | hn
    · exact h.nodes n hn
    · exact hs.nodes n hn

lemma Agrees.recorded {r : Reading Measured} {r' : Watched Measured} (h : Agrees w r r' Ready) :
    Agrees w r (recorded r') Noted := by
  obtain rfl := h.eq
  obtain ⟨a, w'⟩ := r'
  cases a with
  | none => exact h.change (by simp)
  | some m =>
    have hm : Noted m _ := h.good m rfl
    refine ⟨rfl, rfl, h.depth, h.grows.trans (List.prefix_append _ _), fun hw => ?_, ?_⟩
    · have hs := (h.sound hw).measured (e := m.1)
      rwa [← hm.height_eq] at hs
    · rintro _ ⟨⟩
      exact hm

lemma nest_agrees {n : Nat} (hn : n = e.height) (hd : ∀ d ∈ e.nodes, d = e ∨ .measured d d.height ∈ w.events) :
    Agrees w (Expr.nest e n w.cursor) (w.lift (Expr.nest e n)) Ready := by
  refine .lift fun m hm => ?_
  rw [Expr.nest] at hm
  split at hm
  · simp at hm
  · obtain rfl := Option.some.inj hm
    have hle : e.height ≤ maxNesting := by omega
    refine ⟨hn, hle, fun d hd' => ?_⟩
    rcases hd d hd' with rfl | hd'
    · simp [hn]
    · exact List.mem_append_left _ hd'

def Watches (depth : Nat) (read : WatchedReader) (plain : Reader) : Prop :=
  ∀ power w, w.depth = depth → Agrees w (plain power w.cursor) (read power w) Noted

lemma operand_eq (plain : Reader) (c : Cursor) : Expr.operand plain c =
    match c.current with
    | .op .sub => Expr.negation plain (Expr.currentSpan c ⟨0, 0⟩) c
    | .lparen => Expr.group plain c
    | _ => Expr.operand silent c := by
  rw [Expr.operand, Expr.operand, Cursor.current, Expr.currentSpan]
  cases c.tokens with
  | nil => rfl
  | cons t rest =>
    dsimp only [Cursor.kindOf]
    cases t.kind with
    | op o => cases o <;> rfl
    | _ => rfl

lemma nodes_of_leaf {t : Token} (h : t.leaf? = some e) : e.nodes = [e] := by
  rw [Token.leaf?] at h
  split at h <;> simp at h
  · subst h; rfl
  · subst h; rfl
  · subst h; rfl
  · subst h; rfl
  · subst h; rfl
  · obtain ⟨-, rfl⟩ := h
    rfl

lemma group_silent (c : Cursor) : (Expr.group silent c).1 = none := by
  rw [Expr.group]
  dsimp only [silent]
  rcases c.advance.expect .rparen with ⟨_ | _, d⟩ <;> rfl

lemma exists_leaf_of_silent (h : (Expr.operand silent c).1 = some m) : ∃ t : Token, t.leaf? = some m.1 ∧ m.2 = 1 := by
  rw [Expr.operand] at h
  split at h
  · simp at h
  · rename_i t rest hc
    refine ⟨t, ?_⟩
    rw [Token.leaf?]
    cases hk : t.kind with
    | number =>
      rw [hk] at h
      dsimp only [Expr.numeral] at h
      split at h
      · obtain rfl := Option.some.inj h
        simp [*]
      · simp at h
    | op o => cases o <;> simp [hk, Expr.negation, silent] at h
    | lparen => simp [hk, group_silent] at h
    | ident | listName | text | pattern | boolean =>
      simp only [hk, Option.some.injEq] at h
      simp [← h]
    | _ => simp [hk] at h

lemma silent_ready (h : (Expr.operand silent c).1 = some m) : Ready m events := by
  obtain ⟨t, ht, hm⟩ := exists_leaf_of_silent h
  have hh := Expr.height_of_leaf ht
  refine ⟨hm.trans hh.symm, by simp [hh, maxNesting], ?_⟩
  simp [nodes_of_leaf ht, hh, hm]

section

variable (hr : Watches depth read plain) (hd : w.depth = depth)

include hr hd

lemma negation_agrees (s : Span) : Agrees w (Expr.negation plain s w.cursor) (negation read s w) Ready := by
  rw [Expr.negation_eq]
  refine (hr _ (w.on .advance) hd).on.follow fun m w' _ _ hm => nest_agrees ?_ fun n hn => ?_
  · rw [Expr.height, hm.height_eq]
  · rw [nodes] at hn
    exact (List.mem_cons.1 hn).imp_right (hm.nodes n)

lemma group_agrees : Agrees w (Expr.group plain w.cursor) (group read w) Ready := by
  have h := (hr Power.lowest (w.on .advance) hd).on.expectClosing
  exact ⟨h.value, h.cursor, h.depth, h.grows, h.sound, fun m hm => (h.good m hm).ready⟩

lemma operand_agrees : Agrees w (Expr.operand plain w.cursor) (operand read w) Noted := by
  rw [operand_eq, operand]
  refine Agrees.recorded ?_
  have hs : Agrees w (Expr.operand silent w.cursor) (w.lift (Expr.operand silent)) Ready :=
    .lift fun m hm => silent_ready hm
  generalize w.cursor.current = k
  cases k with
  | op o =>
    cases o with
    | sub => exact negation_agrees hr hd _
    | _ => exact hs
  | lparen => exact group_agrees hr hd
  | _ => exact hs

lemma argumentList_agrees (fuel : Nat) :
    Agrees w (Expr.argumentList plain fuel w.cursor) (argumentList read fuel w) NotedAll := by
  induction fuel generalizing w with
  | zero => exact Agrees.lift (f := fun c => (some ([], 0), c)) fun _ ha => Option.some.inj ha ▸ .nil
  | succ fuel ih =>
    have h := hr Power.lowest w hd
    rw [Expr.argumentList, argumentList]
    generalize plain Power.lowest w.cursor = r, read Power.lowest w = r' at h ⊢
    obtain rfl := h.eq
    obtain ⟨first, w₁⟩ := r'
    by_cases hp : w₁.cursor.peek = .comma
    · have hs := (ih (w := w₁.on fun c => c.advance.advance) (h.depth.trans hd)).on
      simp only [hp, if_true]
      generalize argumentList read fuel (w₁.on fun c => c.advance.advance) = s' at hs ⊢
      change Agrees _ (Expr.argumentList plain fuel w₁.cursor.advance.advance) _ _ at hs
      generalize Expr.argumentList plain fuel w₁.cursor.advance.advance = s at hs ⊢
      obtain rfl := hs.eq
      obtain ⟨others, w₂⟩ := s'
      have ht := h.trans hs
      cases first with
      | none => exact ht.change (by simp)
      | some m =>
        cases others with
        | none => exact ht.change (by simp)
        | some a =>
          have hm := ((h.good m rfl).mono hs.grows).cons_all (hs.good a rfl)
          exact ht.change fun _ hx => Option.some.inj hx ▸ hm
    · simp only [hp, if_false]
      cases first with
      | none => exact h.change (by simp)
      | some m => exact h.change fun _ hx => Option.some.inj hx ▸ (h.good m rfl).cons_all .nil

lemma arguments_agrees : Agrees w (Expr.arguments plain w.cursor) (arguments read w) NotedAll := by
  rw [Expr.arguments, arguments]
  by_cases hp : w.cursor.peek = .rparen
  · simp only [hp, if_true]
    exact Agrees.lift (f := fun c => (some ([], 0), c.advance)) fun _ ha => Option.some.inj ha ▸ .nil
  · simp only [hp, if_false]
    exact (argumentList_agrees hr (w := w.on .advance) hd _).on.expectClosing

lemma application_agrees (hm : Noted m w.events) :
    Agrees w (Expr.application plain m w.cursor) (application read m w) Ready := by
  rw [Expr.application_eq]
  refine (arguments_agrees hr hd).follow fun a w' _ hg ha => nest_agrees ?_ fun n hn => ?_
  · rw [Expr.height, hm.height_eq, ha.height_eq]
  · rw [nodes] at hn
    refine (List.mem_cons.1 hn).imp_right fun hn => ?_
    rcases List.mem_append.1 hn with hn | hn
    · exact hg.subset (hm.nodes n hn)
    · exact ha.nodes n hn

lemma infix_agrees (o : Operator) (hm : Noted m w.events) :
    Agrees w
      (follow (plain o.power w.cursor.advance) fun r c =>
        Expr.nest (.binary o m.1 r.1 (m.1.span.union r.1.span)) (max m.2 r.2 + 1) c)
      (follow (read o.power (w.on .advance)) fun r w =>
        w.lift (Expr.nest (.binary o m.1 r.1 (m.1.span.union r.1.span)) (max m.2 r.2 + 1))) Ready := by
  refine (hr _ (w.on .advance) hd).on.follow fun r w' _ hg hn => nest_agrees ?_ fun n hn' => ?_
  · rw [Expr.height, hm.height_eq, hn.height_eq]
  · rw [nodes] at hn'
    refine (List.mem_cons.1 hn').imp_right fun hn' => ?_
    rcases List.mem_append.1 hn' with hn' | hn'
    · exact hg.subset (hm.nodes n hn')
    · exact hn.nodes n hn'

lemma operation_agrees (hm : Noted m w.events) :
    Agrees w (Expr.operation plain m w.cursor) (operation read m w) Noted := by
  rw [operation]
  refine Agrees.recorded ?_
  cases hk : w.cursor.current with
  | lparen =>
    rw [Expr.operation, hk]
    exact application_agrees hr hd hm
  | op o =>
    rw [Expr.operation_op_eq hk]
    exact infix_agrees hr hd o hm
  | _ =>
    rw [Expr.operation, hk]
    exact Agrees.lift (f := fun c => (none, c)) (by simp)

lemma operations_agrees (power fuel : Nat) (hm : Noted m w.events) :
    Agrees w (Expr.operations plain power fuel m w.cursor) (operations read power fuel m w) Noted := by
  induction fuel generalizing w m with
  | zero => exact Agrees.lift (f := fun c => (some m, c)) fun _ ha => Option.some.inj ha ▸ hm
  | succ fuel ih =>
    rw [operations]
    by_cases hp : power < w.cursor.peek.power ∧ w.cursor.current ≠ .eof
    · rw [if_pos hp, Expr.operations_step hp.1 hp.2]
      refine (operation_agrees hr (w := w.on .advance) hd hm).on.follow fun a w' hd' _ ha => ?_
      exact ih (hd'.trans hd) ha
    · rw [if_neg hp, Expr.operations, if_neg hp]
      exact Agrees.lift (f := fun c => (some m, c)) fun _ ha => Option.some.inj ha ▸ hm

end

lemma chain_agrees (hr : Watches (depth + 1) read (Expr.read room)) (hd : w.depth = depth) (hlt : depth < maxNesting) :
    Agrees w (Expr.read (room + 1) power w.cursor) (chain read power w) Noted := by
  have h : Agrees w.enter (Expr.read (room + 1) power w.cursor)
      (follow (operand read w.enter) fun m w => operations read power w.cursor.tokens.length m w) Noted := by
    have hd' : w.enter.depth = depth + 1 := congrArg (· + 1) hd
    rw [Expr.read_succ]
    exact (operand_agrees hr hd').follow fun m w' hw _ hm => operations_agrees hr (hw.trans hd') _ _ hm
  -- the expression is closed whatever came of it, so that a failure leaves the counter as it was, too
  rw [chain]
  refine Agrees.recorded ⟨h.value, h.cursor, ?_, ?_, fun hw => ?_, fun m hm => ?_⟩
  · exact (congrArg (· - 1) h.depth).trans (Nat.add_sub_cancel _ _)
  · exact ((List.prefix_append _ _).trans h.grows).trans (List.prefix_append _ _)
  · exact (h.sound (hw.opened (hd ▸ hlt))).closed
  · exact ((h.good m hm).mono (List.prefix_append _ _)).ready

lemma full_agrees (h : maxNesting ≤ depth) :
    Agrees w (Expr.read (maxNesting - depth) power w.cursor) (none, w.on .abandon) Noted := by
  rw [Nat.sub_eq_zero_of_le h]
  exact Agrees.lift (f := fun c => (none, c.abandon)) (by simp)

theorem read_watches (fuel : Nat) (hf : maxNesting < depth + fuel) :
    Watches depth (Watch.read fuel) (Expr.read (maxNesting - depth)) := by
  -- the room of the plain reader is what the counter has not used up, and the fuel is never asked
  induction fuel generalizing depth with
  | zero => exact fun power w _ => full_agrees (by omega)
  | succ fuel ih =>
    intro power w hd
    rw [Watch.read, hd]
    by_cases hle : maxNesting ≤ depth
    · rw [if_pos hle]
      exact full_agrees hle
    · have hroom : maxNesting - depth = maxNesting - (depth + 1) + 1 := by omega
      have hr : Watches (depth + 1) (Watch.read fuel) (Expr.read (maxNesting - (depth + 1))) := ih (by omega)
      rw [if_neg hle, hroom]
      exact chain_agrees hr hd (Nat.lt_of_not_le hle)

structure Rests (s : Statement) (w : Watch) : Prop where
  depth : w.depth = 0
  sound : Sound 0 w.events
  noted : ∀ e, s.expr = some e → Noted (e, e.height) w.events

variable {s : Statement} {t : Token}

lemma next_agrees (h : Rests s w) : Rests (next t w).1 (next t w).2 ∧
    (next t w).1 = (Statement.next t w.cursor).1 ∧ (next t w).2.cursor = (Statement.next t w.cursor).2 := by
  have hs := h.sound.statement
  rw [← h.depth] at hs
  have ha := read_watches (maxNesting + 1) (by omega) Power.lowest (w.note (.statement w.depth)) h.depth
  rw [Nat.sub_zero] at ha
  change Agrees _ (Expr.read maxNesting Power.lowest w.cursor) _ _ at ha
  rw [next, Statement.next]
  generalize Expr.read maxNesting Power.lowest w.cursor = r, Watch.read (maxNesting + 1) Power.lowest _ = r' at ha ⊢
  obtain rfl := ha.eq
  obtain ⟨a, w'⟩ := r'
  have hd : w'.depth = 0 := ha.depth.trans h.depth
  have hw : Sound 0 w'.events := by
    have hs' : Sound w.depth w'.events := ha.sound hs
    rwa [h.depth] at hs'
  cases a with
  | none => exact ⟨⟨hd, hw, by simp⟩, rfl, rfl⟩
  | some m =>
    have hm := ha.good m rfl
    refine ⟨⟨hd, hw, ?_⟩, rfl, rfl⟩
    rintro _ ⟨⟩
    rw [← hm.height_eq]
    exact hm

lemma last_agrees (h : Rests s w) (fuel : Nat) : Rests (last fuel s w).1 (last fuel s w).2 ∧
    (last fuel s w).1 = (Statement.last fuel s w.cursor).1 ∧
    (last fuel s w).2.cursor = (Statement.last fuel s w.cursor).2 := by
  induction fuel generalizing s w with
  | zero => exact ⟨h, rfl, rfl⟩
  | succ fuel ih =>
    rw [last, Statement.last]
    cases hc : w.cursor.tokens with
    | nil => exact ⟨h, rfl, rfl⟩
    | cons t rest =>
      obtain ⟨hr, hs, hw⟩ := next_agrees (t := t) h
      have hi := ih (s := (next t w).1) (w := (next t w).2.on .advance) ⟨hr.depth, hr.sound, hr.noted⟩
      have hplain : Statement.last fuel (next t w).1 ((next t w).2.on .advance).cursor =
          Statement.last fuel (Statement.next t w.cursor).1 (Statement.next t w.cursor).2.advance := by
        rw [← hs, ← hw]
        rfl
      rw [hplain] at hi
      exact hi

lemma ofTokens_agrees (tokens : List Token) : Rests (ofTokens tokens).1 (ofTokens tokens).2 ∧
    (ofTokens tokens).1 = (Statement.ofTokens tokens).1 ∧
    (ofTokens tokens).2.cursor = (Statement.ofTokens tokens).2 :=
  last_agrees ⟨rfl, .empty, by simp [Statement.empty]⟩ _

end Watch

/-- Never more than `maxNesting` of the calls that passed the test of the counter are open, and none is when a top-level
expression begins. A call that is refused at the limit is not counted: it opens nothing and gives the source up. -/
theorem Rule.nesting_bounded (source : String) :
    (Watch.ofTokens (tokenize source)).1 = (compile source).1.statement ∧
      (Watch.ofTokens (tokenize source)).2.cursor.diagnostics = (compile source).2 ∧
      (∀ p, p <+: (Watch.ofTokens (tokenize source)).2.events →
        p.count .closed ≤ p.count .opened ∧ p.count .opened ≤ p.count .closed + maxNesting) ∧
      (∀ p depth, p ++ [.statement depth] <+: (Watch.ofTokens (tokenize source)).2.events →
        depth = 0 ∧ p.count .opened = p.count .closed) ∧
      (∀ e height, .measured e height ∈ (Watch.ofTokens (tokenize source)).2.events → height = e.height) ∧
      ∀ e, (compile source).1.expr = some e → e.height ≤ maxNesting ∧
        ∀ n ∈ e.nodes, .measured n n.height ∈ (Watch.ofTokens (tokenize source)).2.events := by
  obtain ⟨hr, hs, hc⟩ := Watch.ofTokens_agrees (tokenize source)
  refine ⟨hs, congrArg Cursor.diagnostics hc, hr.sound.bounded, hr.sound.level, hr.sound.height_eq, fun e he => ?_⟩
  have hn := hr.noted e (hs ▸ he)
  exact ⟨hn.height_le, hn.nodes⟩

end Verdict
