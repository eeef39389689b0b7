import Mathlib.Data.List.Chain
import SourceAudit.Line.Window

/-!
# SourceAudit.Proofs.Line.Window

Where the windows of a line end, when a line has windows at all, and what they cover. A window is
known by its start: it ends after as many characters as a window has, or with the line. Windows are
laid over a line one after the other from its start to its end, each sharing the same number of
characters with the next one.

* `exists_mem_windows` — a stretch of a line with no more than one character beyond what windows
  share lies in one of them;
* `tiling_windowsFrom` — the loop lays windows from a position to the end of the line;
* `windowsFrom_of_le` — it ends by itself: more rounds than the line has characters are never used;
* `windows?_tile` — a line has windows, and they cover it with the promised overlap.
-/

namespace SourceAudit.Line

theorem mem_windowsFrom {size step length fuel start : Nat} {w : Span}
    (hw : w ∈ windowsFrom size step length fuel start) :
    w.start < length ∧ w.stop = min (w.start + size) length := by
  induction fuel generalizing start with
  | zero => simp [windowsFrom] at hw
  | succ fuel ih =>
      unfold windowsFrom at hw
      split at hw
      · next hstart =>
        simp only at hw
        split at hw
        · obtain rfl := List.mem_singleton.mp hw
          exact ⟨hstart, rfl⟩
        · rcases List.mem_cons.mp hw with rfl | hw
          · exact ⟨hstart, rfl⟩
          · exact ih hw
      · simp at hw

/-- A line that is not too long is its only window. -/
theorem windows?_eq_of_le {length : Nat} {size : Int} (h : (length : Int) ≤ size) (overlap : Int) :
    windows? length size overlap = some [⟨0, length⟩] := by
  rw [windows?, if_pos h]

/-- Every window ends where its start says. -/
theorem stop_of_mem_windows {length : Nat} {size overlap : Int} {ws : List Span} {w : Span}
    (h : windows? length size overlap = some ws) (hw : w ∈ ws) :
    w.start ≤ length ∧ w.stop = min (w.start + size.toNat) length := by
  unfold windows? at h
  simp only at h
  split at h
  · obtain rfl := Option.some.inj h
    obtain rfl := List.mem_singleton.mp hw
    simp only
    omega
  · split at h
    · simp at h
    · split at h
      · obtain rfl := Option.some.inj h
        simp at hw
      · obtain rfl := Option.some.inj h
        obtain ⟨hlt, hstop⟩ := mem_windowsFrom hw
        exact ⟨Nat.le_of_lt hlt, hstop⟩

/-- Windows of at least one character move forward. -/
theorem windows?_isSome {size overlap : Int} (h : 1 ≤ size) (length : Nat) :
    (windows? length size overlap).isSome := by
  unfold windows?
  simp only
  split
  · rfl
  · have hstep : 1 ≤ size - min overlap (size / 2) := by omega
    rw [if_neg (by omega), if_neg (by omega)]
    rfl

/-! ## What windows cover -/

/-- The windows from `start` on cover every stretch from there that is no longer than a window and
its neighbour share, and a character more. -/
theorem exists_mem_windowsFrom {size step length fuel start a b : Nat} (hstep : 0 < step)
    (hsize : step ≤ size) (hlt : start < length) (hfuel : length ≤ start + fuel) (ha : start ≤ a)
    (hb : b ≤ length) (hshort : b ≤ a + (size - step + 1)) :
    ∃ w ∈ windowsFrom size step length fuel start, w.start ≤ a ∧ b ≤ w.stop := by
  induction fuel generalizing start with
  | zero => omega
  | succ fuel ih =>
      unfold windowsFrom
      rw [if_pos hlt]
      simp only
      by_cases hlast : length ≤ start + size
      · rw [if_pos hlast]
        refine ⟨_, List.mem_singleton_self _, ha, ?_⟩
        simp only
        omega
      rw [if_neg hlast]
      by_cases hhere : b ≤ start + size
      · refine ⟨_, List.mem_cons_self, ha, ?_⟩
        simp only
        omega
      · -- What ends behind this window starts in the next one.
        obtain ⟨w, hw, hcovers⟩ := ih (by omega) (by omega) (show start + step ≤ a by omega)
        exact ⟨w, List.mem_cons_of_mem _ hw, hcovers⟩

/-- **Short stretches are seen whole.** The windows of at least one character cover a line so that
each stretch of it with no more than one character beyond what neighbours share lies in one. -/
theorem exists_mem_windows {length a b : Nat} {size overlap : Int} {ws : List Span}
    (h : windows? length size overlap = some ws) (hsize : 1 ≤ size) (hoverlap : 0 ≤ overlap)
    (hb : b ≤ length) (hshort : (b : Int) ≤ a + (min overlap (size / 2) + 1)) :
    ∃ w ∈ ws, w.start ≤ a ∧ b ≤ w.stop := by
  unfold windows? at h
  simp only at h
  by_cases hlong : (length : Int) ≤ size
  · rw [if_pos hlong] at h
    obtain rfl := Option.some.inj h
    exact ⟨_, List.mem_singleton_self _, Nat.zero_le a, hb⟩
  · rw [if_neg hlong, if_neg (by omega), if_neg (by omega)] at h
    obtain rfl := Option.some.inj h
    exact exists_mem_windowsFrom (by omega) (by omega) (by omega) (by omega) (Nat.zero_le a) hb
      (by omega)

/-! ## Tilings -/

/-- Windows of `size` characters laid over a line from `start` to its end, neighbours sharing
`shared` characters. -/
structure Tiling (start length size shared : Nat) (ws : List Span) : Prop where
  first : ∃ w, ws.head? = some w ∧ w.start = start
  last : ∃ w, ws.getLast? = some w ∧ w.stop = length
  short : ∀ w ∈ ws, w.start ≤ w.stop ∧ w.stop ≤ w.start + size
  full : ∀ w ∈ ws.dropLast, w.stop = w.start + size
  next : ws.IsChain fun v w => w.start + shared = v.stop ∧ v.stop < w.stop
  /-- A short stretch is seen whole, and so is any stretch of a line that fits into a window. -/
  whole : ∀ a b, start ≤ a → a ≤ b → b ≤ length → b ≤ a + (shared + 1) ∨ length ≤ start + size →
    ∃ w ∈ ws, w.start ≤ a ∧ b ≤ w.stop
  /-- There are no more windows than it takes: one less would not reach the end. -/
  count : 1 < ws.length → start + (ws.length - 1) * (size - shared) + shared < length

namespace Tiling

variable {start length size shared step : Nat} {ws : List Span}

/-- A line, or what is left of it, that fits into a window. -/
theorem single (hstart : start ≤ length) (h : length ≤ start + size) :
    Tiling start length size shared [⟨start, length⟩] where
  first := ⟨_, rfl, rfl⟩
  last := ⟨_, rfl, rfl⟩
  short := by simpa using ⟨hstart, h⟩
  full := by simp
  next := .singleton _
  whole := fun _ _ ha _ hb _ => ⟨_, List.mem_singleton_self _, ha, hb⟩
  count := by simp

/-- The first window of a tiling ends at the end of the line or has full size. -/
theorem stop_head {w : Span} (h : Tiling start length size shared (w :: ws)) :
    w.stop = length ∨ w.stop = start + size := by
  obtain ⟨v, hv, hstart⟩ := h.first
  obtain rfl : w = v := Option.some.inj hv
  cases ws with
  | nil =>
      obtain ⟨v, hv, hstop⟩ := h.last
      obtain rfl : w = v := Option.some.inj hv
      exact Or.inl hstop
  | cons v vs =>
      have hfull := h.full w (by simp)
      exact Or.inr (hstart ▸ hfull)

/-- A full window in front of a tiling that starts a step later. -/
theorem cons (h : Tiling (start + step) length size (size - step) ws) (hstep : 0 < step)
    (hsize : step ≤ size) (hlong : start + size < length)
    (hwhole : ∀ a b, start ≤ a → b ≤ length → b ≤ a + (size - step + 1) →
      ∃ w ∈ (⟨start, start + size⟩ :: ws : List Span), w.start ≤ a ∧ b ≤ w.stop) :
    Tiling start length size (size - step) (⟨start, start + size⟩ :: ws) := by
  obtain ⟨w, hw, hstart⟩ := h.first
  obtain ⟨ws, rfl⟩ : ∃ vs, ws = w :: vs := List.head?_eq_some_iff.mp hw
  have hgap : size - (size - step) = step := by omega
  constructor
  case first => exact ⟨_, rfl, rfl⟩
  case last => simpa using h.last
  case short =>
    refine List.forall_mem_cons.mpr ⟨?_, h.short⟩
    simp only
    omega
  case full => simpa using h.full
  case next =>
    have hstop := h.stop_head
    refine .cons_cons ⟨?_, ?_⟩ h.next
    all_goals
      simp only
      omega
  case whole =>
    intro a b ha _ hb hshort
    exact hwhole a b ha hb (by omega)
  case count =>
    intro _
    have hcount := h.count
    simp only [List.length_cons, hgap] at hcount ⊢
    rcases Nat.eq_zero_or_pos ws.length with hone | hmany
    · rw [hone]
      omega
    · have := hcount (by omega)
      rw [Nat.add_sub_cancel] at this ⊢
      rw [Nat.succ_mul]
      omega

end Tiling

/-! ## The loop -/

/-- The loop lays windows from a position of the line to its end. -/
theorem tiling_windowsFrom {size step length fuel start : Nat} (hstep : 0 < step)
    (hsize : step ≤ size) (hlt : start < length) (hfuel : length ≤ start + fuel) :
    Tiling start length size (size - step) (windowsFrom size step length fuel start) := by
  induction fuel generalizing start with
  | zero => omega
  | succ fuel ih =>
      have hwhole := fun a b => exists_mem_windowsFrom (a := a) (b := b) hstep hsize hlt hfuel
      unfold windowsFrom at hwhole ⊢
      rw [if_pos hlt] at hwhole ⊢
      simp only at hwhole ⊢
      by_cases hlast : length ≤ start + size
      · rw [if_pos hlast, Nat.min_eq_right hlast]
        exact .single (Nat.le_of_lt hlt) hlast
      · rw [if_neg hlast, Nat.min_eq_left (by omega)] at hwhole ⊢
        exact (ih (by omega) (by omega)).cons hstep hsize (by omega) hwhole

/-- The loop ends by itself. Once there are rounds for what is left of the line, more of them change
nothing. -/
theorem windowsFrom_of_le {size step length fuel fuel' start : Nat} (hstep : 0 < step)
    (hfuel : length ≤ start + fuel) (hle : fuel ≤ fuel') :
    windowsFrom size step length fuel' start = windowsFrom size step length fuel start := by
  induction fuel generalizing fuel' start with
  | zero =>
      cases fuel' with
      | zero => rfl
      | succ fuel' =>
          unfold windowsFrom
          rw [if_neg (by omega)]
  | succ fuel ih =>
      obtain ⟨fuel', rfl⟩ : ∃ n, fuel' = n + 1 := ⟨fuel' - 1, by omega⟩
      have hrest : windowsFrom size step length fuel' (start + step) =
          windowsFrom size step length fuel (start + step) := ih (by omega) (by omega)
      unfold windowsFrom
      rw [hrest]

/-! ## Windows of a line -/

/-- **Windows cover the line.** For windows of at least one character, and neighbours that are to
share `overlap` of them but no more than half a window, the windows of a line are found in finitely
many steps, as many as one likes beyond the length of the line. They lead from its start to its end,
all but the last one are of full size, each starts as many characters before the end of the previous
one as they share and ends later, and every stretch of the line with at most one character more than
that lies in one of them, as does any stretch of a line that fits into a window. -/
theorem windows?_tile {size overlap : Int} (hsize : 1 ≤ size) (hoverlap : 0 ≤ overlap)
    (length : Nat) :
    ∃ ws, windows? length size overlap = some ws ∧
      Tiling 0 length size.toNat (min overlap (size / 2)).toNat ws ∧
      (size < length → ∀ fuel, length ≤ fuel →
        windowsFrom size.toNat (size - min overlap (size / 2)).toNat length fuel 0 = ws) := by
  by_cases hshort : (length : Int) ≤ size
  · exact ⟨_, windows?_eq_of_le hshort overlap, .single (Nat.zero_le _) (by omega), by omega⟩
  · have hstep : 0 < (size - min overlap (size / 2)).toNat := by omega
    have hshared : (min overlap (size / 2)).toNat =
      size.toNat - (size - min overlap (size / 2)).toNat := by omega
    refine ⟨_, ?_, hshared ▸ tiling_windowsFrom hstep (by omega) (by omega) (by omega),
      fun _ fuel hfuel => windowsFrom_of_le hstep (by omega) hfuel⟩
    unfold windows?
    simp only
    rw [if_neg hshort, if_neg (by omega), if_neg (by omega)]

/-- Windows of five characters that were to share nine but share two. -/
theorem windows?_tile_of_half :
    ∃ ws, windows? 12 5 9 = some ws ∧ Tiling 0 12 5 2 ws ∧
      ws = [⟨0, 5⟩, ⟨3, 8⟩, ⟨6, 11⟩, ⟨9, 12⟩] := by
  obtain ⟨ws, hws, htiling, -⟩ :=
    windows?_tile (by decide : (1 : Int) ≤ 5) (by decide : (0 : Int) ≤ 9) 12
  have hvalue : windows? 12 5 9 = some [⟨0, 5⟩, ⟨3, 8⟩, ⟨6, 11⟩, ⟨9, 12⟩] := by decide
  exact ⟨ws, hws, htiling, Option.some.inj (hws.symm.trans hvalue)⟩

end SourceAudit.Line
