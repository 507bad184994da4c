/-
LintMend.Proofs.Pattern.Barrier — a search sees no further than the first code point that it avoids.

Two texts agree up to some place, where one of them goes on with a code point that no word of a
pattern holds, or ends. What the search takes off the other one, if it stays in front of that place,
it takes off both: the ways it tries before are the same, save for those that reach beyond the place,
and these fail at the barrier.

  `Alike`, `Agrees`     — places in the two texts, and outcomes of a search in them
  `run_agrees`          — the search from places that are alike
  `Takes.eq_of_barrier` — what is taken in front of a barrier
-/
import LintMend.Proofs.Pattern.Scanning

namespace LintMend.Pattern

/-- Places before the same text, with `z` after it in one case and `r` in the other. -/
def Alike (z r : Text) (s₁ s₂ : Spot) : Prop :=
  ∃ y, s₁.rest = y ++ z ∧ s₂.rest = y ++ r

/-- The second search ends like the first, unless the first one ends within `z`. -/
structure Agrees (z r : Text) (o₁ o₂ : Option Spot) : Prop where
  fails : o₁ = none → o₂ = none
  ends : ∀ s₁, o₁ = some s₁ → z.length ≤ s₁.rest.length → ∃ s₂, o₂ = some s₂ ∧ Alike z r s₁ s₂

/-- What follows a place where less than so much text is left, ends there too. -/
def Past (n : Nat) (k : Spot → Option Spot) : Prop :=
  ∀ s s', s.rest.length < n → k s = some s' → s'.rest.length < n

variable {p : Pattern} {z r : Text} {n : Nat}

theorem Agrees.orElse {o₁ o₂ : Option Spot} {f₁ f₂ : Unit → Option Spot} (h : Agrees z r o₁ o₂)
    (hf : Agrees z r (f₁ ()) (f₂ ())) : Agrees z r (o₁.orElse f₁) (o₂.orElse f₂) := by
  cases o₁ with
  | none =>
    rw [h.fails rfl]
    exact hf
  | some s₁ =>
    refine ⟨fun hnone => absurd hnone (Option.some_ne_none s₁), fun s hs hlong => ?_⟩
    obtain ⟨s₂, rfl, halike⟩ := h.ends s hs hlong
    exact ⟨s₂, rfl, halike⟩

/-! ## 1. Ends past a place -/

theorem past_run (hp : p.isLocal = true) {k : Spot → Option Spot} (hk : Past n k) :
    Past n fun s => p.run s k := by
  intro s s' hs h
  obtain ⟨w, s₁, hrest, -, hend⟩ := exists_of_run hp h
  refine hk s₁ s' (Nat.lt_of_le_of_lt ?_ hs) hend
  rw [hrest, List.length_append]
  exact Nat.le_add_left _ _

theorem past_afterRound {step : Spot → (Spot → Option Spot) → Option Spot} {greedy : Bool}
    {fuel : Nat} {most : Option Nat} {k : Spot → Option Spot} (hk : Past n k)
    (hmore : Past n fun s => runRepeat step greedy fuel 0 (most.map (· - 1)) s k) (s : Spot) :
    Past n (afterRound step greedy fuel most s k) := by
  intro s₁ s₂ hs₁ hend
  unfold afterRound at hend
  split at hend
  · exact hk s₁ s₂ hs₁ hend
  · exact hmore s₁ s₂ hs₁ hend

theorem past_runRepeat {step : Spot → (Spot → Option Spot) → Option Spot}
    (hstep : ∀ k, Past n k → Past n fun s => step s k) {greedy : Bool} {fuel least : Nat}
    {most : Option Nat} {k : Spot → Option Spot} (hk : Past n k) :
    Past n fun s => runRepeat step greedy fuel least most s k := by
  induction fuel generalizing least most with
  | zero => exact hk
  | succ fuel ih =>
    cases least with
    | succ least => exact hstep _ ih
    | zero =>
      intro s s' hs h
      obtain hstop | ⟨-, hmore⟩ := runRepeat_zero_eq_some h
      · exact hk s s' hs hstop
      · exact hstep _ (past_afterRound hk ih s) s s' hs hmore

/-! ## 2. Searches from places that are alike -/

theorem Alike.length {s₁ s₂ : Spot} (h : Alike z r s₁ s₂) :
    s₁.rest.length + r.length = s₂.rest.length + z.length := by
  obtain ⟨y, h₁, h₂⟩ := h
  simp only [h₁, h₂, List.length_append]
  omega

/-- What may follow the one and the other search from places that are alike. -/
structure Follows (z r : Text) (s : Spot) (k₁ k₂ : Spot → Option Spot) : Prop where
  past : Past z.length k₁
  agrees : ∀ s₁ s₂, s₁.rest.length ≤ s.rest.length → Alike z r s₁ s₂ → Agrees z r (k₁ s₁) (k₂ s₂)

theorem Follows.mono {s s' : Spot} {k₁ k₂ : Spot → Option Spot} (h : Follows z r s k₁ k₂)
    (hs : s'.rest.length ≤ s.rest.length) : Follows z r s' k₁ k₂ :=
  ⟨h.past, fun s₁ s₂ hs₁ => h.agrees s₁ s₂ (Nat.le_trans hs₁ hs)⟩

theorem runRepeat_agrees {step : Spot → (Spot → Option Spot) → Option Spot}
    (hpast : ∀ k, Past z.length k → Past z.length fun s => step s k)
    (hstep : ∀ {s₁ s₂ : Spot} {k₁ k₂ : Spot → Option Spot}, Alike z r s₁ s₂ →
      Follows z r s₁ k₁ k₂ → Agrees z r (step s₁ k₁) (step s₂ k₂)) {greedy : Bool}
    {fuel₁ fuel₂ least : Nat} {most : Option Nat} {s₁ s₂ : Spot} {k₁ k₂ : Spot → Option Spot}
    (hs : Alike z r s₁ s₂) (hk : Follows z r s₁ k₁ k₂) (hfuel₁ : s₁.rest.length + least < fuel₁)
    (hfuel₂ : s₂.rest.length + least < fuel₂) :
    Agrees z r (runRepeat step greedy fuel₁ least most s₁ k₁)
      (runRepeat step greedy fuel₂ least most s₂ k₂) := by
  induction fuel₁ generalizing fuel₂ least most s₁ s₂ with
  | zero => exact absurd hfuel₁ (Nat.not_lt_zero _)
  | succ fuel₁ ih =>
    cases fuel₂ with
    | zero => exact absurd hfuel₂ (Nat.not_lt_zero _)
    | succ fuel₂ =>
      have hlength := hs.length
      cases least with
      | succ least =>
        refine hstep hs ⟨past_runRepeat hpast hk.past, fun s₁' s₂' hle hs' => ?_⟩
        have hlength' := hs'.length
        exact ih hs' (hk.mono hle) (by omega) (by omega)
      | zero =>
        have hstop := hk.agrees s₁ s₂ (Nat.le_refl _) hs
        simp only [runRepeat]
        split
        · exact hstop
        · have hround : Agrees z r (step s₁ (afterRound step greedy fuel₁ most s₁ k₁))
              (step s₂ (afterRound step greedy fuel₂ most s₂ k₂)) := by
            refine hstep hs ⟨past_afterRound hk.past (past_runRepeat hpast hk.past) s₁,
              fun s₁' s₂' hle hs' => ?_⟩
            -- a round moves nowhere in the one text just when it does so in the other
            have hlength' := hs'.length
            unfold afterRound
            by_cases hsame : s₁'.rest.length = s₁.rest.length
            · rw [if_pos hsame, if_pos (by omega)]
              exact hk.agrees s₁' s₂' hle hs'
            · rw [if_neg hsame, if_neg (by omega)]
              exact ih hs' (hk.mono hle) (by omega) (by omega)
          split
          · exact hround.orElse hstop
          · exact hstop.orElse hround

/-- One code point: in front of the barrier it is the same, and at the barrier there is none. -/
theorem one_agrees {c : CharClass} (hbarrier : ∀ d, r.head? = some d → (one c).avoids d = true)
    {s₁ s₂ : Spot} {k₁ k₂ : Spot → Option Spot} (hs : Alike z r s₁ s₂)
    (hk : Follows z r s₁ k₁ k₂) : Agrees z r ((one c).run s₁ k₁) ((one c).run s₂ k₂) := by
  obtain ⟨y, h₁, h₂⟩ := hs
  cases y with
  | nil =>
    have hnone : (one c).run s₂ k₂ = none := by
      refine run_one_none fun d hd => ?_
      rw [h₂, List.nil_append] at hd
      exact (Bool.not_eq_eq_eq_not.mp (hbarrier d hd))
    refine ⟨fun _ => hnone, fun s hs hlong => ?_⟩
    -- what the first search takes reaches into `z`, so it ends there
    obtain ⟨d, rest, hrest, -, hend⟩ := run_one_eq_some hs
    have hz : z = d :: rest := h₁.symm.trans hrest
    have hshort := hk.past (after s₁ d rest) s (by simp [hz, after]) hend
    exact absurd hlong (Nat.not_le_of_lt hshort)
  | cons d y =>
    cases hd : c.holds d with
    | true =>
      rw [run_one_cons h₁ hd, run_one_cons h₂ hd]
      exact hk.agrees _ _ (by simp [after, h₁]) ⟨y, rfl, rfl⟩
    | false =>
      have hhead : ∀ {s : Spot} {u : Text}, s.rest = d :: u →
          ∀ e, s.rest.head? = some e → c.holds e = false := by
        intro s u hu e he
        rw [hu] at he
        rw [← Option.some.inj he, hd]
      rw [run_one_none (hhead h₁), run_one_none (hhead h₂)]
      exact ⟨fun _ => rfl, fun s hs => absurd hs.symm (Option.some_ne_none s)⟩

/-- **From places that are alike** the search takes the same ways, up to the barrier. -/
theorem run_agrees (hp : p.isLocal = true)
    (hbarrier : ∀ c, r.head? = some c → p.avoids c = true) {s₁ s₂ : Spot}
    {k₁ k₂ : Spot → Option Spot} (hs : Alike z r s₁ s₂) (hk : Follows z r s₁ k₁ k₂) :
    Agrees z r (p.run s₁ k₁) (p.run s₂ k₂) := by
  induction p generalizing s₁ s₂ k₁ k₂ with
  | empty => exact hk.agrees s₁ s₂ (Nat.le_refl _) hs
  | one c => exact one_agrees hbarrier hs hk
  | seq p q ihp ihq =>
    obtain ⟨hp, hq⟩ := Bool.and_eq_true_iff.mp hp
    refine ihp hp (fun c hc => (Bool.and_eq_true_iff.mp (hbarrier c hc)).1) hs
      ⟨past_run hq hk.past, fun s₁' s₂' hle hs' => ?_⟩
    exact ihq hq (fun c hc => (Bool.and_eq_true_iff.mp (hbarrier c hc)).2) hs' (hk.mono hle)
  | alt p q ihp ihq =>
    obtain ⟨hp, hq⟩ := Bool.and_eq_true_iff.mp hp
    exact (ihp hp (fun c hc => (Bool.and_eq_true_iff.mp (hbarrier c hc)).1) hs hk).orElse
      (ihq hq (fun c hc => (Bool.and_eq_true_iff.mp (hbarrier c hc)).2) hs hk)
  | «repeat» greedy least most p ih =>
    obtain ⟨-, hp⟩ := Bool.and_eq_true_iff.mp hp
    exact runRepeat_agrees (fun k hk => past_run hp hk) (fun hs hk => ih hp hbarrier hs hk) hs hk
      (Nat.lt_succ_self _) (Nat.lt_succ_self _)
  | group number p ih =>
    exact ih hp hbarrier hs ⟨fun s s' hlt hend => hk.past (s₁.remember number s) s' hlt hend,
      fun s₁' s₂' hle hs' => hk.agrees _ _ hle hs'⟩
  | textStart | textEnd | lastLineEnd | wordEdge | atomic | look | same | ifGroup => cases hp

/-- **What is taken in front of a barrier** does not depend on what is behind it. -/
theorem Takes.eq_of_barrier (hp : p.isLocal = true)
    (hbarrier : ∀ c, r.head? = some c → p.avoids c = true) {w u y rest : Text}
    (h : p.Takes w (y ++ z)) (hother : p.Takes u rest) (hsame : u ++ rest = w ++ (y ++ r)) : u = w := by
  obtain ⟨s₁, e₁, hmatch₁, hrest₁, hend₁⟩ := h
  obtain ⟨s₂, e₂, hmatch₂, hrest₂, rfl⟩ := hother
  rw [matchAt?_false] at hmatch₁ hmatch₂
  have hs : Alike z r { s₁ with groups := [] } { s₂ with groups := [] } :=
    ⟨w ++ y, by rw [List.append_assoc]; exact hrest₁,
      by rw [List.append_assoc]; exact hrest₂.trans hsame⟩
  have hsome : Follows z r { s₁ with groups := [] } some some := by
    refine ⟨fun s s' hlt hend => ?_, fun s s' _ halike => ⟨fun hnone => absurd hnone (Option.some_ne_none s), ?_⟩⟩
    · obtain rfl := Option.some.inj hend
      exact hlt
    · intro e he _
      obtain rfl := Option.some.inj he
      exact ⟨s', rfl, halike⟩
  obtain ⟨e, he, y', hy', hrest⟩ := (run_agrees hp hbarrier hs hsome).ends e₁ hmatch₁ (by simp [hend₁])
  obtain rfl : e₂ = e := Option.some.inj (hmatch₂.symm.trans he)
  obtain rfl : y' = y := List.append_cancel_right (hy'.symm.trans hend₁)
  rw [hrest] at hsame
  exact List.append_cancel_right hsame

end LintMend.Pattern
