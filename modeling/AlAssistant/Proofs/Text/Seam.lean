import AlAssistant.Text.Search

/-!
# Searching over a seam

Where two texts meet, a mark may begin in the first and end in the second. Marks of the shape of
a tag never do so when the second text begins with the character that only opens a mark, or when
the first ends with the one that only closes it. Then a search in the joined text is a search in
the first and, if that fails, one in the second.
-/
namespace AlAssistant.Text

theorem suffix_append_cases {q a b : List Char} (h : q <:+ a ++ b) :
    q <:+ b ∨ ∃ s, s <:+ a ∧ q = s ++ b := by
  obtain ⟨t, ht⟩ := h
  rcases List.append_eq_append_iff.1 ht with ⟨s, rfl, rfl⟩ | ⟨s, rfl, rfl⟩
  · exact .inr ⟨s, ⟨t, rfl⟩, rfl⟩
  · exact .inl ⟨s, rfl⟩

/-- No occurrence of the mark lies across the place where `a` and `b` meet. -/
def Seam (mark a b : List Char) : Prop :=
  ∀ x y, x ≠ [] → y ≠ [] → mark = x ++ y → x <:+ a → ¬ y <+: b

section
variable {mark a b : List Char}

theorem Seam.mono {s : List Char} (h : Seam mark a b) (hs : s <:+ a) : Seam mark s b :=
  fun x y hx hy hm hxs => h x y hx hy hm (hxs.trans hs)

theorem seam_of_head {c : Char} (h : c ∉ mark.tail) : Seam mark a (c :: b) := by
  intro x y hx hy hm _ hyb
  obtain ⟨d, x, rfl⟩ := List.exists_cons_of_ne_nil hx
  obtain ⟨e, y, rfl⟩ := List.exists_cons_of_ne_nil hy
  obtain ⟨rfl, _⟩ := List.cons_prefix_cons.1 hyb
  exact h (by simp [hm])

theorem seam_of_last {c : Char} (h : c ∉ mark.dropLast) : Seam mark (a ++ [c]) b := by
  intro x y hx hy hm hxa _
  obtain ⟨t, ht⟩ := hxa
  have hl : x.getLast? = some c := by
    simpa [List.getLast?_append, List.getLast?_eq_some_getLast hx] using congrArg List.getLast? ht
  apply h
  rw [hm, List.dropLast_append_of_ne_nil hy]
  exact List.mem_append_left _ (List.mem_of_getLast? hl)

theorem seam_of_notMem {c : Char} {m : List Char} (h : c ∉ a) : Seam (c :: m) a b := by
  intro x y hx _ hm hxa _
  obtain ⟨d, x, rfl⟩ := List.exists_cons_of_ne_nil hx
  obtain ⟨rfl, _⟩ := List.cons.inj hm
  exact h (hxa.subset List.mem_cons_self)

theorem dropStart?_append_of_length_le (h : mark.length ≤ a.length) :
    dropStart? mark (a ++ b) = (dropStart? mark a).map (· ++ b) := by
  induction mark generalizing a with
  | nil => simp [dropStart?]
  | cons p mark ih =>
    cases a with
    | nil => simp at h
    | cons c a =>
      simp only [List.cons_append, dropStart?]
      split
      · exact ih (by simpa using h)
      · rfl

theorem length_le_of_cutAt? {x y : List Char} (h : cutAt? mark a = some (x, y)) :
    mark.length ≤ a.length := by
  rw [eq_append_of_cutAt? h]
  simp only [List.length_append]
  omega

/-- The first occurrence in a text is the first one however the text goes on. -/
theorem cutAt?_append_of_some {x y : List Char} (h : cutAt? mark a = some (x, y)) :
    cutAt? mark (a ++ b) = some (x, y ++ b) := by
  induction a generalizing x with
  | nil =>
    have hm : mark = [] := List.eq_nil_of_length_eq_zero (Nat.le_zero.1 (length_le_of_cutAt? h))
    subst hm
    cases h
    cases b <;> rfl
  | cons c a ih =>
    have hl := length_le_of_cutAt? h
    have hd : dropStart? mark (c :: (a ++ b)) = (dropStart? mark (c :: a)).map (· ++ b) :=
      dropStart?_append_of_length_le hl
    unfold cutAt? at h
    rw [List.cons_append]
    unfold cutAt?
    split at h
    · next heq =>
      cases h
      rw [hd, heq]
      rfl
    · next heq =>
      obtain ⟨⟨u, v⟩, hc, hxy⟩ := Option.map_eq_some_iff.1 h
      cases hxy
      rw [hd, heq, Option.map_none, ih hc]
      rfl

/-- Without an occurrence in the first text nor across the seam, the first is in the second. -/
theorem cutAt?_append_of_none (h : cutAt? mark a = none) (hs : Seam mark a b) :
    cutAt? mark (a ++ b) = (cutAt? mark b).map fun (x, y) => (a ++ x, y) := by
  induction a with
  | nil => simp
  | cons c a ih =>
    have hn : dropStart? mark (c :: a) = none := by
      cases hd : dropStart? mark (c :: a) with
      | none => rfl
      | some r => simp [cutAt?, hd] at h
    have hd : dropStart? mark (c :: (a ++ b)) = none := by
      cases hd : dropStart? mark (c :: (a ++ b)) with
      | none => rfl
      | some r =>
        have hr : c :: a ++ b = mark ++ r := dropStart?_eq_some_iff.1 hd
        rcases List.append_eq_append_iff.1 hr with ⟨y, hm, hb⟩ | ⟨t, ht, _⟩
        · cases y with
          | nil =>
            have hw := dropStart?_append (c :: a) []
            rw [List.append_nil] at hm hw
            rw [hm, hw] at hn
            cases hn
          | cons d y =>
            exact absurd ⟨r, hb.symm⟩
              (hs (c :: a) (d :: y) (by simp) (by simp) hm List.suffix_rfl)
        · simp [dropStart?_eq_some_iff.2 ht] at hn
    have hc : cutAt? mark a = none := by
      simpa [cutAt?, hn] using h
    rw [List.cons_append, cutAt?, hd, ih hc (hs.mono (List.suffix_cons c a))]
    simp [Function.comp_def]

theorem cutAt?_of_dropStart? {rest : List Char} (h : dropStart? mark a = some rest) :
    cutAt? mark a = some ([], rest) := by
  cases a with
  | nil => simp [cutAt?, h]
  | cons c a => simp [cutAt?, h]

theorem cutAt?_append_self (h : ¬ mark <:+: a) (hs : Seam mark a mark) :
    cutAt? mark (a ++ mark) = some (a, []) := by
  have hm : cutAt? mark mark = some ([], []) :=
    cutAt?_of_dropStart? (dropStart?_eq_some_iff.2 (List.append_nil mark).symm)
  rw [cutAt?_append_of_none (cutAt?_eq_none_iff.2 h) hs, hm]
  simp

/-- A cut behind a text that reads the same in front of another. -/
theorem cutAt?_append_mark {x : List Char} (h : cutAt? mark (x ++ mark) = some (x, [])) :
    cutAt? mark (x ++ mark ++ b) = some (x, b) := by
  rw [cutAt?_append_of_some h, List.nil_append]

theorem cutAt?_mark_of_cutAt? {x y : List Char} (h : cutAt? mark a = some (x, y)) :
    cutAt? mark (x ++ mark) = some (x, []) := by
  have hi : mark <:+: x ++ mark := List.infix_append_right
  cases hc : cutAt? mark (x ++ mark) with
  | none => exact absurd hi (cutAt?_eq_none_iff.1 hc)
  | some found =>
    obtain ⟨u, v⟩ := found
    have hl : cutAt? mark (x ++ mark ++ y) = some (u, v ++ y) := cutAt?_append_of_some hc
    rw [← eq_append_of_cutAt? h, h] at hl
    obtain ⟨rfl, _⟩ := Prod.mk.inj (Option.some.inj hl)
    have hw := eq_append_of_cutAt? hc
    simp only [List.self_eq_append_right] at hw
    rw [hw]

/-- A mark that is in neither text and not across the seam is not in the joined text. -/
theorem not_isInfix_append (ha : ¬ mark <:+: a) (hb : ¬ mark <:+: b) (hs : Seam mark a b) :
    ¬ mark <:+: a ++ b := by
  rw [← cutAt?_eq_none_iff] at ha hb ⊢
  rw [cutAt?_append_of_none ha hs, hb, Option.map_none]

/-- A mark does not reach over a character that it does not hold. -/
theorem infix_append_cons_iff {c : Char} (h : c ∉ mark) :
    mark <:+: a ++ c :: b ↔ mark <:+: a ∨ mark <:+: b := by
  constructor
  · intro hi
    refine Classical.or_iff_not_imp_left.2 fun ha => Classical.byContradiction fun hb => ?_
    have hc : ¬ mark <:+: c :: b := by
      rw [List.infix_cons_iff]
      rintro (hp | hp)
      · cases mark with
        | nil => exact ha List.nil_infix
        | cons d mark => exact h ((List.cons_prefix_cons.1 hp).1 ▸ List.mem_cons_self)
      · exact hb hp
    exact not_isInfix_append ha hc (seam_of_head fun ht => h (List.mem_of_mem_tail ht)) hi
  · rintro (hi | hi)
    · exact hi.trans (List.prefix_append a _).isInfix
    · exact hi.trans ⟨a ++ [c], [], by simp⟩

theorem exists_cutAt?_mark (mark a : List Char) : ∃ x y, cutAt? mark (a ++ mark) = some (x, y) := by
  have hi : mark <:+: a ++ mark := List.infix_append_right
  cases hc : cutAt? mark (a ++ mark) with
  | none => exact absurd hi (cutAt?_eq_none_iff.1 hc)
  | some found => exact ⟨found.1, found.2, rfl⟩

/-- Where the first occurrence of a mark ends the text, there is no other. -/
theorem eq_nil_of_cutAt?_mark {x y : List Char} (h : cutAt? mark a = some (b, []))
    (ha : a = x ++ mark ++ y) : y = [] := by
  obtain ⟨u, v, hc⟩ := exists_cutAt?_mark mark x
  rw [ha, cutAt?_append_of_some hc] at h
  exact (List.append_eq_nil_iff.1 (congrArg Prod.snd (Option.some.inj h))).2

/-- A text that leads up to a mark does not begin with a piece without the mark and then once
more with itself: the first occurrence would have two places. -/
theorem append_ne_of_not_isInfix {u z v w : List Char} (hz : z ≠ []) (hm : ¬ mark <:+: z)
    (hs : Seam mark z (u ++ mark ++ w)) : u ++ mark ++ v ≠ z ++ (u ++ mark ++ w) := by
  intro h
  obtain ⟨x, y, hc⟩ := exists_cutAt?_mark mark u
  have hv : cutAt? mark (u ++ mark ++ v) = some (x, y ++ v) := cutAt?_append_of_some hc
  have hw : cutAt? mark (u ++ mark ++ w) = some (x, y ++ w) := cutAt?_append_of_some hc
  rw [h, cutAt?_append_of_none (cutAt?_eq_none_iff.2 hm) hs, hw] at hv
  have hx : z ++ x = x := congrArg Prod.fst (Option.some.inj hv)
  exact hz (List.append_left_eq_self.1 hx)

theorem notMem_of_cutAt?_singleton {c : Char} {x y : List Char}
    (h : cutAt? [c] a = some (x, y)) : c ∉ x := by
  intro hc
  obtain ⟨s, t, rfl, hs⟩ := List.eq_append_cons_of_mem hc
  rw [eq_append_of_cutAt? h, List.append_assoc, List.append_assoc, List.cons_append,
    cutAt?_singleton hs] at h
  have hl := congrArg List.length (congrArg Prod.fst (Option.some.inj h))
  simp only [List.length_append, List.length_cons] at hl
  omega

end

end AlAssistant.Text
