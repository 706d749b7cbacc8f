import BhDic.Library.Regex

/-!
# What a group captures

A result of a pattern is a place further on in the same text, and each capture it brings was
consumed by the pattern of a group. Both are shown of every step first, and then of repetitions by a
rule for relations that can be composed.
-/

namespace BhDic.Library

/-- From one place to a later one of the same text, over `text`. -/
def Cursor.Over (c : Cursor) (text : List Char) (c' : Cursor) : Prop :=
  c.after = text ++ c'.after ∧ c'.before = text.reverse ++ c.before

namespace Cursor.Over

variable {c c' c'' : Cursor} {text text' : List Char}

theorem refl (c : Cursor) : c.Over [] c := ⟨rfl, rfl⟩

theorem trans (h : c.Over text c') (h' : c'.Over text' c'') : c.Over (text ++ text') c'' := by
  constructor
  · rw [h.1, h'.1, List.append_assoc]
  · rw [h'.2, h.2, List.reverse_append, List.append_assoc]

theorem advance {x : Char} {rest : List Char} (h : c.after = x :: rest) :
    c.Over [x] (c.advance x rest) := ⟨h, rfl⟩

/-- The text between two places is what `capture` cuts out. -/
theorem text_eq (h : c.Over text c') :
    c.after.take (c.after.length - c'.after.length) = text := by
  rw [h.1, List.length_append, Nat.add_sub_cancel, List.take_left]

end Cursor.Over

namespace Regex

/-! ## Repetitions -/

section Repetitions

variable {R : Cursor → Cursor → Prop} {step : Cursor → List Cursor}

/-- What each step keeps, and can be composed, repetitions keep. -/
theorem times_rel (refl : ∀ c, R c c) (trans : ∀ {c c' c''}, R c c' → R c' c'' → R c c'')
    (h : ∀ c, ∀ c' ∈ step c, R c c') (n : Nat) (c : Cursor) : ∀ c' ∈ times step n c, R c c' := by
  induction n generalizing c with
  | zero =>
      intro c' hc'
      obtain rfl := List.mem_singleton.mp hc'
      exact refl _
  | succ n ih =>
      intro c'' hc''
      obtain ⟨c', hc', hrest⟩ := List.mem_flatMap.mp hc''
      exact trans (h c c' hc') (ih c' c'' hrest)

theorem mem_upTo_succ {greedy : Bool} {n : Nat} {c c'' : Cursor}
    (h : c'' ∈ upTo step greedy (n + 1) c) :
    c'' = c ∨ ∃ c' ∈ step c, c'' ∈ upTo step greedy n c' := by
  have hmore : c'' = c ∨ c'' ∈ (step c).flatMap fun c' =>
      if c'.after.length < c.after.length then upTo step greedy n c' else [] := by
    cases greedy with
    | true => exact (List.mem_append.mp h).symm.imp List.mem_singleton.mp id
    | false => exact List.mem_cons.mp h
  apply hmore.imp id
  intro hmem
  obtain ⟨c', hc', hrest⟩ := List.mem_flatMap.mp hmem
  split at hrest
  · exact ⟨c', hc', hrest⟩
  · cases hrest

theorem upTo_rel (refl : ∀ c, R c c) (trans : ∀ {c c' c''}, R c c' → R c' c'' → R c c'')
    (h : ∀ c, ∀ c' ∈ step c, R c c') (greedy : Bool) (n : Nat) (c : Cursor) :
    ∀ c' ∈ upTo step greedy n c, R c c' := by
  induction n generalizing c with
  | zero =>
      intro c' hc'
      obtain rfl := List.mem_singleton.mp hc'
      exact refl _
  | succ n ih =>
      intro c'' hc''
      rcases mem_upTo_succ hc'' with rfl | ⟨c', hc', hrest⟩
      · exact refl _
      · exact trans (h c c' hc') (ih c' c'' hrest)

theorem repeated_rel (refl : ∀ c, R c c) (trans : ∀ {c c' c''}, R c c' → R c' c'' → R c c'')
    {r : Regex} (h : ∀ c, ∀ c' ∈ results r c, R c c') (least : Nat) (most : Option Nat)
    (greedy : Bool) (c : Cursor) : ∀ c' ∈ results (.repeated least most greedy r) c, R c c' := by
  intro c'' hc''
  obtain ⟨c', hc', hrest⟩ := List.mem_flatMap.mp hc''
  exact trans (times_rel refl trans h least c c' hc')
    (upTo_rel refl trans h greedy _ c' c'' hrest)

end Repetitions

/-! ## Results go on in the text -/

theorem mem_chars {accepts : Char → Bool} {c c' : Cursor} (h : c' ∈ results (.chars accepts) c) :
    ∃ x rest, c.after = x :: rest ∧ accepts x = true ∧ c' = c.advance x rest := by
  rw [results] at h
  split at h
  · cases h
  · next x rest hafter =>
      split at h
      · next hx => exact ⟨x, rest, hafter, hx, List.mem_singleton.mp h⟩
      · cases h

theorem mem_unmoved {p : Prop} [Decidable p] {c c' : Cursor}
    (h : c' ∈ if p then [c] else []) : c' = c := by
  split at h
  · exact List.mem_singleton.mp h
  · cases h

/-- **A result is further on in the same text.** -/
theorem exists_over {r : Regex} {c c' : Cursor} (h : c' ∈ results r c) :
    ∃ text, c.Over text c' := by
  have refl : ∀ c : Cursor, ∃ text, c.Over text c := fun c => ⟨[], .refl c⟩
  have trans : ∀ {c c' c'' : Cursor}, (∃ text, c.Over text c') → (∃ text, c'.Over text c'') →
      ∃ text, c.Over text c'' := fun ⟨_, h⟩ ⟨_, h'⟩ => ⟨_, h.trans h'⟩
  induction r generalizing c c' with
  | empty =>
      obtain rfl := List.mem_singleton.mp h
      exact refl _
  | chars accepts =>
      obtain ⟨x, rest, hafter, -, rfl⟩ := mem_chars h
      exact ⟨[x], .advance hafter⟩
  | seq r s ihr ihs =>
      obtain ⟨mid, hmid, hrest⟩ := List.mem_flatMap.mp h
      exact trans (ihr hmid) (ihs hrest)
  | alt r s ihr ihs =>
      rcases List.mem_append.mp h with h | h
      · exact ihr h
      · exact ihs h
  | repeated least most greedy r ih =>
      exact @repeated_rel (fun c c' => ∃ text, c.Over text c') refl trans r (fun _ _ h => ih h)
        least most greedy c c' h
  | group n r ih =>
      obtain ⟨mid, hmid, rfl⟩ := List.mem_map.mp h
      obtain ⟨text, htext⟩ := ih hmid
      exact ⟨text, htext⟩
  | textStart | textEnd | boundary isWord | notAhead r =>
      obtain rfl := mem_unmoved h
      exact refl _
  | notBehind accepts =>
      rw [results] at h
      split at h
      · cases h
      · obtain rfl := List.mem_singleton.mp h
        exact refl _

/-! ## Captures -/

/-- The patterns of the groups with number `n`. -/
def groupBodies (n : Nat) : Regex → List Regex
  | .seq r s | .alt r s => groupBodies n r ++ groupBodies n s
  | .repeated _ _ _ r | .notAhead r => groupBodies n r
  | .group m r => if m = n then r :: groupBodies n r else groupBodies n r
  | .empty | .chars _ | .textStart | .textEnd | .boundary _ | .notBehind _ => []

/-- Some place from which the pattern goes over the text. -/
def Consumes (r : Regex) (text : List Char) : Prop := ∃ c, ∃ c' ∈ results r c, c.Over text c'

/-- Captured by one of the groups of a pattern. -/
def CapturedBy (r : Regex) (cap : Capture) : Prop :=
  ∃ body ∈ groupBodies cap.group r, body.Consumes cap.text

/-- **What a result captures was captured before, or by a group of the pattern.** -/
theorem capturedBy_of_mem {r : Regex} {c c' : Cursor} (h : c' ∈ results r c) :
    ∀ cap ∈ c'.captures, cap ∈ c.captures ∨ CapturedBy r cap := by
  induction r generalizing c c' with
  | empty =>
      obtain rfl := List.mem_singleton.mp h
      exact fun cap hcap => .inl hcap
  | chars accepts =>
      obtain ⟨x, rest, -, -, rfl⟩ := mem_chars h
      exact fun cap hcap => .inl hcap
  | seq r s ihr ihs =>
      obtain ⟨mid, hmid, hrest⟩ := List.mem_flatMap.mp h
      intro cap hcap
      rcases ihs hrest cap hcap with hmem | ⟨body, hbody, hover⟩
      · rcases ihr hmid cap hmem with hmem | ⟨body, hbody, hover⟩
        · exact .inl hmem
        · exact .inr ⟨body, List.mem_append_left _ hbody, hover⟩
      · exact .inr ⟨body, List.mem_append_right _ hbody, hover⟩
  | alt r s ihr ihs =>
      intro cap hcap
      rcases List.mem_append.mp h with h | h
      · exact (ihr h cap hcap).imp id fun ⟨body, hbody, hover⟩ =>
          ⟨body, List.mem_append_left _ hbody, hover⟩
      · exact (ihs h cap hcap).imp id fun ⟨body, hbody, hover⟩ =>
          ⟨body, List.mem_append_right _ hbody, hover⟩
  | repeated least most greedy r ih =>
      refine @repeated_rel (fun c c' => ∀ cap ∈ c'.captures, cap ∈ c.captures ∨ CapturedBy r cap)
        (fun c cap hcap => .inl hcap) ?_ r (fun _ _ h => ih h) least most greedy c c' h
      intro c c' c'' h h' cap hcap
      exact (h' cap hcap).elim (h cap) .inr
  | group n r ih =>
      obtain ⟨mid, hmid, rfl⟩ := List.mem_map.mp h
      intro cap hcap
      rcases List.mem_cons.mp hcap with rfl | hcap
      · obtain ⟨text, hover⟩ := exists_over hmid
        refine .inr ⟨r, by simp [groupBodies], c, mid, hmid, ?_⟩
        show c.Over (c.after.take (c.after.length - mid.after.length)) mid
        rwa [hover.text_eq]
      · apply (ih hmid cap hcap).imp id
        intro ⟨body, hbody, hover⟩
        refine ⟨body, ?_, hover⟩
        rw [groupBodies]
        split
        · exact List.mem_cons_of_mem _ hbody
        · exact hbody
  | textStart | textEnd | boundary isWord | notAhead r =>
      obtain rfl := mem_unmoved h
      exact fun cap hcap => .inl hcap
  | notBehind accepts =>
      rw [results] at h
      split at h
      · cases h
      · obtain rfl := List.mem_singleton.mp h
        exact fun cap hcap => .inl hcap

/-- Nothing that was captured is forgotten. -/
theorem captures_suffix {r : Regex} {c c' : Cursor} (h : c' ∈ results r c) :
    c.captures <:+ c'.captures := by
  induction r generalizing c c' with
  | empty =>
      obtain rfl := List.mem_singleton.mp h
      exact List.suffix_rfl
  | chars accepts =>
      obtain ⟨x, rest, -, -, rfl⟩ := mem_chars h
      exact List.suffix_rfl
  | seq r s ihr ihs =>
      obtain ⟨mid, hmid, hrest⟩ := List.mem_flatMap.mp h
      exact (ihr hmid).trans (ihs hrest)
  | alt r s ihr ihs =>
      rcases List.mem_append.mp h with h | h
      · exact ihr h
      · exact ihs h
  | repeated least most greedy r ih =>
      exact @repeated_rel (fun c c' => c.captures <:+ c'.captures) (fun _ => List.suffix_rfl)
        (fun h h' => h.trans h') r (fun _ _ h => ih h) least most greedy c c' h
  | group n r ih =>
      obtain ⟨mid, hmid, rfl⟩ := List.mem_map.mp h
      exact (ih hmid).trans (List.suffix_cons _ _)
  | textStart | textEnd | boundary isWord | notAhead r =>
      obtain rfl := mem_unmoved h
      exact List.suffix_rfl
  | notBehind accepts =>
      rw [results] at h
      split at h
      · cases h
      · obtain rfl := List.mem_singleton.mp h
        exact List.suffix_rfl

/-- Whether a group with number `n` takes part in every match. -/
def alwaysCaptures (n : Nat) : Regex → Bool
  | .seq r s => alwaysCaptures n r || alwaysCaptures n s
  | .alt r s => alwaysCaptures n r && alwaysCaptures n s
  | .repeated least _ _ r => least != 0 && alwaysCaptures n r
  | .group m r => m == n || alwaysCaptures n r
  | .empty | .chars _ | .textStart | .textEnd | .boundary _ | .notAhead _ | .notBehind _ => false

/-- A group that takes part in every match has captured something. -/
theorem exists_capture {n : Nat} {r : Regex} {c c' : Cursor} (hr : alwaysCaptures n r = true)
    (h : c' ∈ results r c) : ∃ cap ∈ c'.captures, cap.group = n := by
  induction r generalizing c c' with
  | seq r s ihr ihs =>
      obtain ⟨mid, hmid, hrest⟩ := List.mem_flatMap.mp h
      rcases Bool.or_eq_true_iff.mp hr with hr | hs
      · obtain ⟨cap, hcap, hn⟩ := ihr hr hmid
        exact ⟨cap, (captures_suffix hrest).subset hcap, hn⟩
      · exact ihs hs hrest
  | alt r s ihr ihs =>
      obtain ⟨hr, hs⟩ := Bool.and_eq_true_iff.mp hr
      rcases List.mem_append.mp h with h | h
      · exact ihr hr h
      · exact ihs hs h
  | repeated least most greedy r ih =>
      obtain ⟨hleast, hr⟩ := Bool.and_eq_true_iff.mp hr
      obtain ⟨k, rfl⟩ := Nat.exists_eq_succ_of_ne_zero (by simpa using hleast)
      obtain ⟨mid, hmid, hrest⟩ := List.mem_flatMap.mp h
      obtain ⟨first, hfirst, htimes⟩ := List.mem_flatMap.mp hmid
      obtain ⟨cap, hcap, hn⟩ := ih hr hfirst
      have hkeep : first.captures <:+ c'.captures :=
        (@times_rel (fun c c' => c.captures <:+ c'.captures) _ (fun _ => List.suffix_rfl)
          (fun h h' => h.trans h') (fun _ _ => captures_suffix) k first mid htimes).trans
        (@upTo_rel (fun c c' => c.captures <:+ c'.captures) _ (fun _ => List.suffix_rfl)
          (fun h h' => h.trans h') (fun _ _ => captures_suffix) greedy _ mid c' hrest)
      exact ⟨cap, hkeep.subset hcap, hn⟩
  | group m r ih =>
      obtain ⟨mid, hmid, rfl⟩ := List.mem_map.mp h
      rcases Bool.or_eq_true_iff.mp hr with hm | hr
      · exact ⟨_, List.mem_cons_self, by simpa using hm⟩
      · obtain ⟨cap, hcap, hn⟩ := ih hr hmid
        exact ⟨cap, List.mem_cons_of_mem _ hcap, hn⟩
  | empty | chars _ | textStart | textEnd | boundary _ | notAhead _ | notBehind _ => cases hr

/-! ## Matches -/

theorem searchFrom_spec {r : Regex} {before after : List Char} {m : Match}
    (h : searchFrom r before after = some m) :
    m.stop ∈ results r m.start ∧ m.start.captures = [] := by
  induction after generalizing before with
  | nil =>
      obtain ⟨stop, hstop, rfl⟩ := Option.map_eq_some_iff.mp h
      exact ⟨List.mem_of_mem_head? hstop, rfl⟩
  | cons x rest ih =>
      rw [searchFrom] at h
      split at h
      · next stop hstop =>
          obtain rfl := Option.some.inj h
          exact ⟨List.mem_of_mem_head? hstop, rfl⟩
      · exact ih h

/-- What a group of a match holds, its pattern consumed. -/
theorem consumes_of_search {r : Regex} {text : List Char} {m : Match} {n : Nat} {cap : Capture}
    (h : r.search text = some m) (hcap : m.stop.group n = some cap) :
    ∃ body ∈ groupBodies n r, body.Consumes cap.text := by
  obtain ⟨hmem, hnone⟩ := searchFrom_spec h
  have hnumber : cap.group = n := by simpa using List.find?_some hcap
  rcases capturedBy_of_mem hmem cap (List.mem_of_find?_eq_some hcap) with hold | hnew
  · rw [hnone] at hold
    cases hold
  · rwa [CapturedBy, hnumber] at hnew

theorem exists_group_of_search {r : Regex} {text : List Char} {m : Match} {n : Nat}
    (h : r.search text = some m) (hr : alwaysCaptures n r = true) :
    ∃ cap, m.stop.group n = some cap := by
  obtain ⟨cap, hcap, hn⟩ := exists_capture hr (searchFrom_spec h).1
  apply Option.isSome_iff_exists.mp
  rw [Cursor.group, List.find?_isSome]
  exact ⟨cap, hcap, by simpa using hn⟩

/-! ## What is consumed -/

/-- Every character that a pattern can consume has the property. -/
def Within (p : Char → Prop) : Regex → Prop
  | .chars accepts => ∀ x, accepts x = true → p x
  | .seq r s | .alt r s => Within p r ∧ Within p s
  | .repeated _ _ _ r | .group _ r => Within p r
  | .empty | .textStart | .textEnd | .boundary _ | .notAhead _ | .notBehind _ => True

theorem exists_over_within {p : Char → Prop} {r : Regex} (hr : Within p r) {c c' : Cursor}
    (h : c' ∈ results r c) : ∃ text, c.Over text c' ∧ ∀ x ∈ text, p x := by
  have refl : ∀ c : Cursor, ∃ text, c.Over text c ∧ ∀ x ∈ text, p x := fun c =>
    ⟨[], .refl c, by simp⟩
  have trans : ∀ {c c' c'' : Cursor}, (∃ text, c.Over text c' ∧ ∀ x ∈ text, p x) →
      (∃ text, c'.Over text c'' ∧ ∀ x ∈ text, p x) →
      ∃ text, c.Over text c'' ∧ ∀ x ∈ text, p x := by
    intro c c' c'' ⟨text, h, hp⟩ ⟨text', h', hp'⟩
    exact ⟨text ++ text', h.trans h', fun x hx => (List.mem_append.mp hx).elim (hp x) (hp' x)⟩
  induction r generalizing c c' with
  | empty =>
      obtain rfl := List.mem_singleton.mp h
      exact refl _
  | chars accepts =>
      obtain ⟨x, rest, hafter, hx, rfl⟩ := mem_chars h
      exact ⟨[x], .advance hafter, by simpa using hr x hx⟩
  | seq r s ihr ihs =>
      obtain ⟨mid, hmid, hrest⟩ := List.mem_flatMap.mp h
      exact trans (ihr hr.1 hmid) (ihs hr.2 hrest)
  | alt r s ihr ihs =>
      rcases List.mem_append.mp h with h | h
      · exact ihr hr.1 h
      · exact ihs hr.2 h
  | repeated least most greedy r ih =>
      exact @repeated_rel (fun c c' => ∃ text, c.Over text c' ∧ ∀ x ∈ text, p x) refl trans r
        (fun _ _ h => ih hr h) least most greedy c c' h
  | group n r ih =>
      obtain ⟨mid, hmid, rfl⟩ := List.mem_map.mp h
      obtain ⟨text, htext⟩ := ih hr hmid
      exact ⟨text, htext⟩
  | textStart | textEnd | boundary isWord | notAhead r =>
      obtain rfl := mem_unmoved h
      exact refl _
  | notBehind accepts =>
      rw [results] at h
      split at h
      · cases h
      · obtain rfl := List.mem_singleton.mp h
        exact refl _

/-- The least number of characters that a pattern consumes. -/
def minLength : Regex → Nat
  | .chars _ => 1
  | .seq r s => minLength r + minLength s
  | .alt r s => min (minLength r) (minLength s)
  | .repeated least _ _ r => least * minLength r
  | .group _ r => minLength r
  | .empty | .textStart | .textEnd | .boundary _ | .notAhead _ | .notBehind _ => 0

theorem after_le {r : Regex} {c c' : Cursor} (h : c' ∈ results r c) :
    c'.after.length ≤ c.after.length := by
  obtain ⟨text, htext⟩ := exists_over h
  rw [htext.1, List.length_append]
  exact Nat.le_add_left _ _

theorem times_minLength {r : Regex}
    (h : ∀ c, ∀ c' ∈ results r c, c'.after.length + minLength r ≤ c.after.length) (n : Nat)
    (c : Cursor) : ∀ c' ∈ times (results r) n c,
      c'.after.length + n * minLength r ≤ c.after.length := by
  induction n generalizing c with
  | zero =>
      intro c' hc'
      obtain rfl := List.mem_singleton.mp hc'
      omega
  | succ n ih =>
      intro c'' hc''
      obtain ⟨c', hc', hrest⟩ := List.mem_flatMap.mp hc''
      have hfirst := h c c' hc'
      have hothers := ih c' c'' hrest
      rw [Nat.succ_mul]
      omega

theorem minLength_le {r : Regex} {c c' : Cursor} (h : c' ∈ results r c) :
    c'.after.length + minLength r ≤ c.after.length := by
  induction r generalizing c c' with
  | chars accepts =>
      obtain ⟨x, rest, hafter, -, rfl⟩ := mem_chars h
      rw [hafter]
      exact Nat.le_refl _
  | seq r s ihr ihs =>
      obtain ⟨mid, hmid, hrest⟩ := List.mem_flatMap.mp h
      have hr := ihr hmid
      have hs := ihs hrest
      rw [minLength]
      omega
  | alt r s ihr ihs =>
      rw [minLength]
      rcases List.mem_append.mp h with h | h
      · have hr := ihr h
        omega
      · have hs := ihs h
        omega
  | repeated least most greedy r ih =>
      obtain ⟨mid, hmid, hrest⟩ := List.mem_flatMap.mp h
      have hleast := times_minLength (fun _ _ h => ih h) least c mid hmid
      have hmore := @upTo_rel (fun c c' => c'.after.length ≤ c.after.length) _
        (fun _ => Nat.le_refl _) (fun h h' => Nat.le_trans h' h) (fun _ _ => after_le) greedy _
        mid c' hrest
      rw [minLength]
      omega
  | group n r ih =>
      obtain ⟨mid, hmid, rfl⟩ := List.mem_map.mp h
      show mid.after.length + minLength r ≤ c.after.length
      exact ih hmid
  | empty | textStart | textEnd | boundary isWord | notAhead r | notBehind accepts =>
      exact after_le h

/-- The characters and the length of a text that a pattern consumes. -/
theorem Consumes.spec {p : Char → Prop} {r : Regex} (hr : Within p r) {text : List Char}
    (h : r.Consumes text) : (∀ x ∈ text, p x) ∧ minLength r ≤ text.length := by
  obtain ⟨c, c', hc', hover⟩ := h
  obtain ⟨w, hw, hp⟩ := exists_over_within hr hc'
  obtain rfl : text = w := by rw [← hover.text_eq, hw.text_eq]
  refine ⟨hp, ?_⟩
  have hlength := minLength_le hc'
  rw [hover.1, List.length_append] at hlength
  omega

end Regex

end BhDic.Library
