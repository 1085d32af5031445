import TaskConsole.Proofs.Correspondence.Effect

/-!
# Texts that are not sent

The texts that were sent and have neither failed nor been told are pending
(`Post.pending`).  A correspondence is `OnTrack` when the user sees each text that was sent
once, and the echoes are the pending texts.  It stays so through a run exactly if each
move is in turn (`Post.InTurn`): what fails is the first pending text of its kind, as far
as the echoes can tell, and a snapshot tells the oldest pending texts.  The session knows
a text that failed by nothing but the text, and compares what it is told with the oldest
echo only.
-/

namespace TaskConsole

open Entry

namespace Post

/-! ### Pending texts -/

/-- The texts that were sent and have neither failed nor been told, with their places. -/
def pending (p : Post) : List (String × Nat) :=
  p.sent.zipIdx.filter fun send => send.2 ∉ p.failed ∧ send.2 ∉ p.toldSends.map Prod.snd

/-- The pending texts, in the order in which they were sent. -/
def pendingTexts (p : Post) : List String := p.pending.map Prod.fst

/-- The pending texts that were sent before a place. -/
def pendingBefore (p : Post) (place : Nat) : List String :=
  (p.pending.filter fun send => send.2 < place).map Prod.fst

/-- A move is in turn.  When a text fails, all that is pending before it from the first
equal text on is equal to it; and a snapshot tells the oldest pending texts. -/
def InTurn (p : Post) : Move → Prop
  | .refuse _ text place _ => ∀ other ∈ (p.pendingBefore place).dropWhile (· ≠ text), other = text
  | .snapshot _ _ count =>
    p.pendingTexts = (p.news count).map Prod.fst ++ (p.tell count).pendingTexts
  | _ => True

instance (p : Post) : (move : Move) → Decidable (p.InTurn move)
  | .event _ _ => isTrue trivial
  | .hold _ => isTrue trivial
  | .refuse _ text place _ =>
    inferInstanceAs (Decidable (∀ other ∈ (p.pendingBefore place).dropWhile (· ≠ text), _))
  | .snapshot _ _ _ => inferInstanceAs (Decidable (_ = _))

/-- The pending texts stand in the order of their places. -/
theorem pairwise_pending (p : Post) :
  p.pending.Pairwise fun send send' => send.2 < send'.2
  := by
  apply List.Pairwise.filter
  have hplaces : (p.sent.zipIdx.map Prod.snd).Pairwise (· < ·) := by
    rw [List.zipIdx_map_snd]
    exact List.pairwise_lt_range'
  exact List.pairwise_map.mp hplaces

/-- What is sent is pending behind the others. -/
theorem pending_send (p : Post) (texts : List String)
    (hfailed : ∀ place ∈ p.failed, place < p.sent.length)
    (htold : ∀ send ∈ p.toldSends, send ∈ p.sent.zipIdx) :
  (p.send texts).pendingTexts = p.pendingTexts ++ texts
  := by
  have hnew : (texts.zipIdx p.sent.length).filter
      (fun send => send.2 ∉ p.failed ∧ send.2 ∉ p.toldSends.map Prod.snd)
      = texts.zipIdx p.sent.length := by
    rw [List.filter_eq_self]
    intro send hsend
    have hle := List.le_snd_of_mem_zipIdx hsend
    apply decide_eq_true
    constructor
    · intro hmem
      apply Nat.not_lt.mpr hle (hfailed _ hmem)
    · intro hmem
      obtain ⟨told, htoldMem, hplace⟩ := List.mem_map.mp hmem
      apply Nat.not_lt.mpr hle
      rw [← hplace]
      apply List.snd_lt_of_mem_zipIdx (htold told htoldMem)
  have hpending : (p.send texts).pending = p.pending ++ texts.zipIdx p.sent.length := by
    have happend : (p.sent ++ texts).zipIdx
        = p.sent.zipIdx ++ texts.zipIdx p.sent.length := by
      rw [List.zipIdx_append, Nat.zero_add]
    rw [← hnew, pending, pending, ← List.filter_append, ← happend]
    rfl
  rw [pendingTexts, hpending, List.map_append, List.zipIdx_map_fst, pendingTexts]

/-- What fails is no longer pending. -/
theorem pending_fail (p : Post) (place : Nat) :
  (p.fail place).pending = p.pending.filter fun send => send.2 ≠ place
  := by
  have htold : (p.fail place).toldSends = p.toldSends := rfl
  rw [pending, htold, pending, List.filter_filter]
  apply List.filter_congr
  intro send _
  simp only [fail, List.mem_cons, not_or, and_assoc, Bool.decide_and, ne_eq]

/-- A pending text parts the others into those before it and those behind it. -/
theorem exists_pendingTexts_eq {p : Post} {text : String} {place : Nat}
    (h : (text, place) ∈ p.pending) :
  ∃ behind, p.pendingTexts = p.pendingBefore place ++ text :: behind
    ∧ (p.fail place).pendingTexts = p.pendingBefore place ++ behind
  := by
  obtain ⟨before, behind, hpending⟩ := List.append_of_mem h
  have hordered := p.pairwise_pending
  rw [hpending, List.pairwise_append, List.pairwise_cons] at hordered
  obtain ⟨-, ⟨hbehind, -⟩, hbefore⟩ := hordered
  have hlt : ∀ send ∈ before, send.2 < place :=
    fun send hsend => hbefore send hsend _ List.mem_cons_self
  have hpendingBefore : p.pendingBefore place = before.map Prod.fst := by
    have hnone : (behind.filter fun send => send.2 < place) = [] := by
      rw [List.filter_eq_nil_iff]
      intro send hsend
      simpa using Nat.le_of_lt (hbehind send hsend)
    have hall : (before.filter fun send => send.2 < place) = before := by
      rw [List.filter_eq_self]
      intro send hsend
      simpa using hlt send hsend
    rw [pendingBefore, hpending, List.filter_append, hall,
      List.filter_cons_of_neg (by simp), hnone, List.append_nil]
  have hrest : (p.pending.filter fun send => send.2 ≠ place) = before ++ behind := by
    have hothers : (before ++ behind).filter (fun send => send.2 ≠ place) = before ++ behind := by
      rw [List.filter_eq_self]
      intro send hsend
      rcases List.mem_append.mp hsend with hsend | hsend
      · simpa using Nat.ne_of_lt (hlt send hsend)
      · simpa using Nat.ne_of_gt (hbehind send hsend)
    rw [hpending, List.filter_append, List.filter_cons_of_neg (by simp), ← List.filter_append,
      hothers]
  use behind.map Prod.fst
  constructor
  · rw [pendingTexts, hpending, hpendingBefore, List.map_append, List.map_cons]
  · rw [pendingTexts, pending_fail, hrest, hpendingBefore, List.map_append]

end Post

namespace Correspondence

/-- Taking an element away from the front of a list leaves the elements behind it where
they were exactly if all in front of it are equal to it. -/
theorem append_cons_eq_cons_iff {text : String} {before behind : List String} :
  before ++ text :: behind = text :: (before ++ behind) ↔ ∀ other ∈ before, other = text
  := by
  induction before with
  | nil => simp
  | cons first before ih =>
    rw [List.cons_append, List.cons_append, List.cons.injEq, List.forall_mem_cons]
    apply and_congr_right
    intro h
    rw [h, ih]

/-- Where the first element equal to a later one is taken away, it is as if the later one
were, exactly if all before that one, from the first equal one on, are equal to it. -/
theorem erase_append_cons_eq_iff {text : String} {before behind : List String} :
  (before ++ text :: behind).erase text = before ++ behind
    ↔ ∀ other ∈ before.dropWhile (· ≠ text), other = text
  := by
  induction before with
  | nil => simp
  | cons first before ih =>
    by_cases h : first = text
    · subst h
      rw [List.cons_append, List.erase_cons_head, List.cons_append, append_cons_eq_cons_iff,
        List.dropWhile_cons_of_neg (by simp)]
      simp
    · rw [List.cons_append, List.erase_cons_tail (by simpa using h), List.cons_append,
        List.dropWhile_cons_of_pos (by simpa using h), ← ih]
      simp

/-! ### On track -/

/-- Each text that was sent is shown once, behind those that were shown before, and the
echoes are the pending texts. -/
structure OnTrack (before : List String) (c : Correspondence) : Prop where
  shown : c.shown = before ++ c.post.sent
  echoes : c.session.echoes = c.post.pendingTexts

/-- Each move is in turn when it comes. -/
def TakesTurns (c : Correspondence) : List Move → Prop
  | [] => True
  | move :: moves => c.post.InTurn move ∧ (c.apply move).TakesTurns moves

/-- Whether moves are in turn is decided move by move. -/
def decidableTakesTurns : (c : Correspondence) → (moves : List Move) →
    Decidable (c.TakesTurns moves)
  | _, [] => isTrue trivial
  | c, move :: moves =>
    have := decidableTakesTurns (c.apply move) moves
    inferInstanceAs (Decidable (c.post.InTurn move ∧ (c.apply move).TakesTurns moves))

instance (c : Correspondence) (moves : List Move) : Decidable (c.TakesTurns moves) :=
  decidableTakesTurns c moves

/-- What is said is pending behind the other texts. -/
theorem onTrack_event {before : List String} {c : Correspondence} (h : c.Sound)
    (htrack : c.OnTrack before) (now : Nat) {e : Event}
    (hquiet : (c.session.turn e).IsQuiet) :
  (c.apply (.event now e)).OnTrack before
  := by
  obtain ⟨hshown, hechoes, hpost⟩ := event_effect now hquiet
  have htold : ∀ send ∈ c.post.toldSends, send ∈ c.post.sent.zipIdx := by
    intro send hsend
    apply h.held send ((toldSends_sublist c.post).mem hsend)
  constructor
  · rw [hshown, hpost, htrack.shown, Post.send, List.append_assoc]
  · rw [hechoes, hpost, htrack.echoes, Post.pending_send _ _ h.failed_lt htold]

/-- What the service holds without telling it makes no difference. -/
theorem onTrack_hold {before : List String} {c : Correspondence} (h : c.Sound)
    (htrack : c.OnTrack before) (r : Record) :
  (c.apply (.hold r)).OnTrack before
  := by
  have hpending : (c.post.hold r).pendingTexts = c.post.pendingTexts := by
    rw [Post.pendingTexts, Post.pending, toldSends_hold h]
    rfl
  constructor
  · exact htrack.shown
  · rw [apply, hpending]
    exact htrack.echoes

/-- An open text is pending. -/
theorem mem_pending_of_isOpen {p : Post} {text : String} {place : Nat}
    (h : p.IsOpen text place) :
  (text, place) ∈ p.pending
  := by
  obtain ⟨hsent, hfailed, hsends⟩ := h
  have htold : place ∉ p.toldSends.map Prod.snd := by
    intro htold
    apply hsends
    apply ((toldSends_sublist p).map _).mem htold
  apply List.mem_filter.mpr ⟨hsent, decide_eq_true ⟨hfailed, htold⟩⟩

/-- A failure takes the first echo equal to its text away, and that is the echo of the text
exactly if it is in turn. -/
theorem onTrack_refuse_iff {before : List String} {c : Correspondence}
    (htrack : c.OnTrack before) (now : Nat) {text : String} {place : Nat} (notice : Notice)
    (hopen : c.post.IsOpen text place) :
  (c.apply (.refuse now text place notice)).OnTrack before
    ↔ c.post.InTurn (.refuse now text place notice)
  := by
  obtain ⟨hshown, hechoes⟩ := refuse_effect c now text place notice
  obtain ⟨behind, hpending, hrest⟩ := Post.exists_pendingTexts_eq (mem_pending_of_isOpen hopen)
  have hpost : (c.apply (.refuse now text place notice)).post = c.post.fail place := rfl
  have hecho : (c.apply (.refuse now text place notice)).session.echoes
      = (c.post.fail place).pendingTexts ↔ c.post.InTurn (.refuse now text place notice) := by
    rw [hechoes, htrack.echoes, hpending, hrest, erase_append_cons_eq_iff]
    rfl
  constructor
  · intro hnext
    apply hecho.mp hnext.echoes
  · intro hturn
    constructor
    · rw [hshown, htrack.shown, hpost, Post.fail]
    · apply hecho.mpr hturn

/-- A snapshot settles the echoes without showing anything again, and leaves what is pending
then, exactly if it is in turn. -/
theorem onTrack_snapshot_iff {before : List String} {c : Correspondence} (h : c.Sound)
    (htrack : c.OnTrack before) (now : Nat) (head : Task) (count : Nat) :
  (c.apply (.snapshot now head count)).OnTrack before
    ↔ c.post.InTurn (.snapshot now head count)
  := by
  obtain ⟨hshown, hechoes⟩ := snapshot_effect h now head count
  have hpost : (c.apply (.snapshot now head count)).post = c.post.tell count := rfl
  have hsettle : Session.settle c.session.echoes ((c.post.news count).map Prod.fst)
      = ((c.post.tell count).pendingTexts, []) ↔ c.post.InTurn (.snapshot now head count) := by
    rw [Session.settle_eq_iff, htrack.echoes]
    rfl
  constructor
  · intro hnext
    have hshownNext := hnext.shown
    rw [hshown, htrack.shown, hpost, Post.tell] at hshownNext
    apply hsettle.mp
    apply Prod.ext
    · rw [← hechoes, hnext.echoes, hpost]
    · apply List.append_right_eq_self.mp hshownNext
  · intro hturn
    have hsettled := hsettle.mpr hturn
    constructor
    · rw [hshown, htrack.shown, hsettled, hpost, List.append_nil, Post.tell]
    · rw [hechoes, hsettled, hpost]

/-- A move keeps a correspondence on track exactly if it is in turn. -/
theorem onTrack_apply_iff {before : List String} {c : Correspondence} (h : c.Sound)
    (htrack : c.OnTrack before) {move : Move} (hallowed : c.Allowed move) :
  (c.apply move).OnTrack before ↔ c.post.InTurn move
  := by
  cases move with
  | event now e => exact iff_of_true (onTrack_event h htrack now hallowed) trivial
  | hold r => exact iff_of_true (onTrack_hold h htrack r) trivial
  | refuse now text place notice => apply onTrack_refuse_iff htrack now notice hallowed
  | snapshot now head count => apply onTrack_snapshot_iff h htrack now head count

/-- A correspondence on track stays so through a run exactly if the moves take turns. -/
theorem onTrack_run_iff {before : List String} {c : Correspondence} (h : c.Sound)
    (htrack : c.OnTrack before) {moves : List Move} (hruns : c.Runs moves) :
  (∀ first, first <+: moves → (c.after first).OnTrack before) ↔ c.TakesTurns moves
  := by
  induction moves generalizing c with
  | nil =>
    constructor
    · intro _
      trivial
    · intro _ first hfirst
      rw [List.prefix_nil.mp hfirst]
      exact htrack
  | cons move moves ih =>
    obtain ⟨hallowed, hrest⟩ := hruns
    have hstep := onTrack_apply_iff h htrack hallowed
    constructor
    · intro hall
      have hnext : (c.apply move).OnTrack before :=
        hall [move] ((List.prefix_cons_inj _).mpr List.nil_prefix)
      use hstep.mp hnext
      apply (ih (sound_apply h hallowed) hnext hrest).mp
      intro first hfirst
      apply hall (move :: first) ((List.prefix_cons_inj _).mpr hfirst)
    · rintro ⟨hturn, hturns⟩ first hfirst
      have hnext : (c.apply move).OnTrack before := hstep.mpr hturn
      rcases List.prefix_cons_iff.mp hfirst with rfl | ⟨others, rfl, hothers⟩
      · exact htrack
      · apply (ih (sound_apply h hallowed) hnext hrest).mpr hturns others hothers

/-- Through a run each text that was sent is shown once, and the echoes are the pending
texts, exactly if each move of the run is in turn. -/
theorem onTrack_iff_takesTurns
    (snapshot : Snapshot) (agent : Agent) (agents : List Agent) (theme : Theme)
    (viewport : Viewport) {moves : List Move}
    (hruns : (opened snapshot agent agents theme viewport).Runs moves) :
  let before := opened snapshot agent agents theme viewport
  (∀ first, first <+: moves → (before.after first).OnTrack before.shown)
    ↔ before.TakesTurns moves
  := by
  intro before
  apply onTrack_run_iff (sound_opened _ _ _ _ _) _ hruns
  constructor
  · exact (List.append_nil _).symm
  · apply (Session.start_eq snapshot agent agents theme viewport).2.2.1

/-- A text fails, and then the one sent after it is recorded and told. -/
theorem onTrack_of_refusal_in_turn :
  let moves := typing 'a' ++ typing 'b'
    ++ [.refuse 0 "a" 0 ⟨.generic, "failed", []⟩, .hold (.own "b" 1 "m1" 0 none),
      .snapshot 0 { id := "t" } 1]
  blank.Runs moves ∧ ∀ first, first <+: moves → (blank.after first).OnTrack blank.shown
  := by
  intro moves
  have hruns : blank.Runs moves := by decide
  use hruns
  apply (onTrack_iff_takesTurns _ _ _ _ _ hruns).mpr
  decide

/-- Where the later of two equal texts fails, or a text fails after the one sent after it was
told, the service records what gets through in the order in which it was sent, and still a
text that it tells is shown again. -/
theorem not_onTrack_of_refusal_out_of_turn :
  let repeated := typing 'a' ++ typing 'b' ++ typing 'a'
    ++ [.refuse 0 "a" 2 ⟨.generic, "failed", []⟩, .hold (.own "a" 0 "m1" 0 none),
      .hold (.own "b" 1 "m2" 0 none), .snapshot 0 { id := "t" } 2]
  let late := typing 'a' ++ typing 'b'
    ++ [.hold (.own "b" 1 "m1" 0 none), .snapshot 0 { id := "t" } 1,
      .refuse 0 "a" 0 ⟨.generic, "failed", []⟩]
  (blank.Runs repeated ∧ (blank.after repeated).post.sent = ["a", "b", "a"]
    ∧ (blank.after repeated).shown = ["a", "b", "a", "a"]
    ∧ (blank.after repeated).session.echoes = ["a"]
    ∧ (blank.after repeated).post.pendingTexts = [])
  ∧ blank.Runs late ∧ (blank.after late).post.sent = ["a", "b"]
    ∧ (blank.after late).shown = ["a", "b", "b"]
    ∧ (blank.after late).session.echoes = ["b"]
    ∧ (blank.after late).post.pendingTexts = []
  := by
  decide

end Correspondence

end TaskConsole
