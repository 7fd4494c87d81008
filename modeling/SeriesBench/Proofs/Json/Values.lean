import Mathlib.Data.List.TakeWhile
import SeriesBench.Proofs.Json.Units
import SeriesBench.Proofs.Text.Digits

set_option autoImplicit false

/-!
# A written value is read back

Between the text and the value stand the tokens of the value. The text is cut into them, and the
stack of open values turns them into the value again.
-/
namespace SeriesBench.Json
open SeriesBench.Text

mutual

def tokens : Json → List Token
  | .null => [.null]
  | .bool b => [.bool b]
  | .number literal => [.number literal]
  | .text units => [.text units]
  | .array [] => [.leftBracket, .rightBracket]
  | .array (v :: rest) => .leftBracket :: (tokens v ++ moreItems rest) ++ [.rightBracket]
  | .object [] => [.leftBrace, .rightBrace]
  | .object ((key, v) :: rest) =>
    .leftBrace :: .text key :: .colon :: (tokens v ++ moreMembers rest) ++ [.rightBrace]

def moreItems : List Json → List Token
  | [] => []
  | v :: rest => .comma :: (tokens v ++ moreItems rest)

def moreMembers : List (List Nat × Json) → List Token
  | [] => []
  | (key, v) :: rest => .comma :: .text key :: .colon :: (tokens v ++ moreMembers rest)

end

inductive WellFormed : Json → Prop where
  | null : WellFormed .null
  | bool (b : Bool) : WellFormed (.bool b)
  | number {literal : List Char} (hform : isNumber literal = true)
      (hchars : ∀ c ∈ literal, isNumberChar c = true) : WellFormed (.number literal)
  | text {units : List Nat} (hunits : ∀ u ∈ units, IsUnit u) : WellFormed (.text units)
  | array {items : List Json} (hitems : ∀ v ∈ items, WellFormed v) : WellFormed (.array items)
  | object {members : List (List Nat × Json)} (hkeys : ∀ m ∈ members, ∀ u ∈ m.1, IsUnit u)
      (hvalues : ∀ m ∈ members, WellFormed m.2) : WellFormed (.object members)

/-- Whether the tokens of a value bring it about wherever a value is due. -/
def Builds (v : Json) : Prop :=
  ∀ stack ts, build stack none (v.tokens ++ ts) = build stack (some v) ts

theorem build_moreItems {rest : List Json} (h : ∀ w ∈ rest, w.Builds) (v : Json)
    (done : List Json) (stack : List OpenValue) (ts : List Token) :
    build (.array done :: stack) (some v) (moreItems rest ++ .rightBracket :: ts) =
      build stack (some (.array (done.reverse ++ v :: rest))) ts := by
  induction rest generalizing v done with
  | nil =>
    rw [moreItems, List.nil_append, build, List.reverse_cons]
  | cons w rest ih =>
    rw [moreItems, List.cons_append, List.append_assoc, build, h w (by simp),
      ih fun u hu => h u (by simp [hu])]
    simp

theorem build_moreMembers {rest : List (List Nat × Json)} (h : ∀ m ∈ rest, m.2.Builds)
    (key : List Nat) (v : Json) (done : List (List Nat × Json)) (stack : List OpenValue)
    (ts : List Token) :
    build (.object done key :: stack) (some v) (moreMembers rest ++ .rightBrace :: ts) =
      build stack (some (.object (done.reverse ++ (key, v) :: rest))) ts := by
  induction rest generalizing key v done with
  | nil =>
    rw [moreMembers, List.nil_append, build, List.reverse_cons]
  | cons m rest ih =>
    obtain ⟨next, w⟩ := m
    rw [moreMembers, List.cons_append, List.cons_append, List.cons_append, List.append_assoc, build,
      h (next, w) (by simp), ih fun n hn => h n (by simp [hn])]
    simp

theorem tokens_ne_rightBracket (v : Json) (ts us : List Token) :
    v.tokens ++ ts ≠ .rightBracket :: us := by
  rcases v with _ | _ | _ | _ | ⟨_ | _⟩ | ⟨_ | _⟩ <;> simp [tokens]

theorem WellFormed.builds {v : Json} (h : v.WellFormed) : v.Builds := by
  induction h with
  | null | bool _ | number _ _ | text _ =>
    intro stack ts
    rw [tokens, List.singleton_append, build]
  | @array items _ ih =>
    intro stack ts
    cases items with
    | nil => rw [tokens, List.cons_append, List.singleton_append, build]
    | cons v rest =>
      rw [tokens, List.append_assoc, List.cons_append, List.append_assoc,
        build.eq_7 _ _ (fun us => tokens_ne_rightBracket v _ us), ih v (by simp)]
      exact build_moreItems (fun w hw => ih w (by simp [hw])) v [] stack ts
  | @object members _ _ ih =>
    intro stack ts
    cases members with
    | nil => rw [tokens, List.cons_append, List.singleton_append, build]
    | cons m rest =>
      obtain ⟨key, v⟩ := m
      rw [tokens, List.append_assoc, List.cons_append, List.cons_append, List.cons_append,
        List.append_assoc, build, ih (key, v) (by simp)]
      exact build_moreMembers (fun n hn => ih n (by simp [hn])) key v [] stack ts

theorem readTokens_step {s rest : List Char} {token : Token}
    (hspace : ∀ c ∈ s.head?, isSpace c = false) (h : nextToken? s = some (token, rest))
    (done : List Token) : readTokens s done = readTokens rest (token :: done) := by
  cases s with
  | nil => simp [nextToken?, isNumber, afterWhole, someDigits] at h
  | cons c cs =>
    have start : (c :: cs).dropWhile isSpace = c :: cs :=
      List.dropWhile_cons_of_neg (by simp [hspace c (by simp)])
    rw [readTokens]
    split
    · rename_i hnil
      rw [start] at hnil
      exact absurd hnil (by simp)
    · rename_i c' cs' hcons
      rw [start] at hcons
      obtain ⟨rfl, rfl⟩ := List.cons.inj hcons
      split
      · rename_i hnone
        rw [h] at hnone
        exact absurd hnone (by simp)
      · rename_i hsome
        rw [h] at hsome
        cases hsome
        rfl

theorem readTokens_number {literal : List Char} (hform : isNumber literal = true)
    (hchars : ∀ c ∈ literal, isNumberChar c = true) {rest : List Char}
    (hrest : ∀ c ∈ rest.head?, isNumberChar c = false) (done : List Token) :
    readTokens (literal ++ rest) done = readTokens rest (.number literal :: done) := by
  cases literal with
  | nil => simp [isNumber, afterWhole, someDigits] at hform
  | cons c cs =>
    have hc := hchars c (by simp)
    have stop : rest.takeWhile isNumberChar = [] ∧ rest.dropWhile isNumberChar = rest := by
      cases rest with
      | nil => exact ⟨rfl, rfl⟩
      | cons d ds =>
        have hd := hrest d (by simp)
        exact ⟨List.takeWhile_cons_of_neg (by simp [hd]), List.dropWhile_cons_of_neg (by simp [hd])⟩
    have number : nextToken? (c :: cs ++ rest) = some (.number (c :: cs), rest) := by
      rw [nextToken?.eq_def]
      split
      case h_11 =>
        simp only [List.takeWhile_append_of_pos hchars, List.dropWhile_append_of_pos hchars,
          stop.1, stop.2, List.append_nil, hform, if_true]
      all_goals
        rename_i heq
        rw [List.cons_append, List.cons.injEq] at heq
        rw [heq.1] at hc
        exact absurd hc (by decide)
    refine readTokens_step ?_ number done
    intro d hd
    obtain rfl : c = d := by simpa using hd
    rw [Bool.eq_false_iff]
    intro hspace
    simp only [isSpace, Bool.or_eq_true, beq_iff_eq] at hspace
    rcases hspace with ((rfl | rfl) | rfl) | rfl <;> exact absurd hc (by decide)

theorem readTokens_text {units : List Nat} (h : ∀ u ∈ units, IsUnit u) (rest : List Char)
    (done : List Token) :
    readTokens (renderText units ++ rest) done = readTokens rest (.text units :: done) := by
  have quoted : renderText units ++ rest = '"' :: (units.flatMap renderUnit ++ '"' :: rest) := by
    simp [renderText]
  have text : nextToken? (renderText units ++ rest) = some (.text units, rest) := by
    simp only [quoted, nextToken?, readUnits_flatMap h, List.append_nil, Option.map_some,
      List.reverse_reverse]
  exact readTokens_step (by rw [quoted]; simp [isSpace]) text done

/-- Whether the text of a value is cut into its tokens wherever no number goes on behind it. -/
def Cuts (v : Json) : Prop :=
  ∀ rest done, (∀ c ∈ rest.head?, isNumberChar c = false) →
    readTokens (v.render ++ rest) done = readTokens rest (v.tokens.reverse ++ done)

theorem readTokens_renderItems {v : Json} {rest : List Json} (h : ∀ w ∈ v :: rest, w.Cuts)
    (s : List Char) (done : List Token) :
    readTokens (renderItems (v :: rest) ++ ']' :: s) done =
      readTokens s (.rightBracket :: ((v.tokens ++ moreItems rest).reverse ++ done)) := by
  induction rest generalizing v done with
  | nil =>
    rw [renderItems, h v (by simp) _ _ (by simp; decide), readTokens_step (by simp; decide) rfl,
      moreItems, List.append_nil]
  | cons w rest ih =>
    rw [renderItems, List.append_assoc, List.cons_append, h v (by simp) _ _ (by simp; decide),
      readTokens_step (by simp; decide) rfl, ih fun u hu => h u (by simp [List.mem_cons.1 hu])]
    simp [moreItems]

theorem readTokens_renderMembers {key : List Nat} {v : Json} {rest : List (List Nat × Json)}
    (hkeys : ∀ m ∈ (key, v) :: rest, ∀ u ∈ m.1, IsUnit u) (h : ∀ m ∈ (key, v) :: rest, m.2.Cuts)
    (s : List Char) (done : List Token) :
    readTokens (renderMembers ((key, v) :: rest) ++ '\x7d' :: s) done =
      readTokens s (.rightBrace ::
        ((.text key :: .colon :: (v.tokens ++ moreMembers rest)).reverse ++ done)) := by
  have hkey : ∀ u ∈ key, IsUnit u := hkeys (key, v) (by simp)
  have hv : v.Cuts := h (key, v) (by simp)
  induction rest generalizing key v done with
  | nil =>
    rw [renderMembers, List.append_assoc, readTokens_text hkey, List.cons_append,
      readTokens_step (by simp; decide) rfl, hv _ _ (by simp; decide),
      readTokens_step (by simp; decide) rfl]
    simp [moreMembers]
  | cons m rest ih =>
    obtain ⟨next, w⟩ := m
    rw [renderMembers, List.append_assoc, List.append_assoc, readTokens_text hkey, List.cons_append,
      readTokens_step (by simp; decide) rfl, List.cons_append, hv _ _ (by simp; decide),
      readTokens_step (by simp; decide) rfl,
      ih (fun n hn => hkeys n (by simp [List.mem_cons.1 hn]))
        (fun n hn => h n (by simp [List.mem_cons.1 hn])) _ (hkeys (next, w) (by simp))
        (h (next, w) (by simp))]
    simp [moreMembers]

theorem WellFormed.cuts {v : Json} (h : v.WellFormed) : v.Cuts := by
  induction h with
  | null =>
    intro rest done _
    rw [tokens, render]
    exact readTokens_step (by simp; decide) rfl done
  | bool b =>
    intro rest done _
    cases b <;> (rw [tokens, render]; exact readTokens_step (by simp; decide) rfl done)
  | number hform hchars =>
    intro rest done hrest
    rw [tokens, render]
    exact readTokens_number hform hchars hrest done
  | text hunits =>
    intro rest done _
    rw [tokens, render]
    exact readTokens_text hunits rest done
  | @array items _ ih =>
    intro rest done _
    rw [render, List.append_assoc, List.cons_append, List.singleton_append,
      readTokens_step (by simp; decide) rfl]
    cases items with
    | nil =>
      rw [renderItems, List.nil_append, readTokens_step (by simp; decide) rfl]
      simp [tokens]
    | cons v items =>
      rw [readTokens_renderItems ih]
      simp [tokens]
  | @object members hkeys _ ih =>
    intro rest done _
    rw [render, List.append_assoc, List.cons_append, List.singleton_append,
      readTokens_step (by simp; decide) rfl]
    cases members with
    | nil =>
      rw [renderMembers, List.nil_append, readTokens_step (by simp; decide) rfl]
      simp [tokens]
    | cons m members =>
      obtain ⟨key, v⟩ := m
      rw [readTokens_renderMembers hkeys ih]
      simp [tokens]

theorem read?_render {v : Json} (h : v.WellFormed) : read? v.render = some v := by
  have cut := h.cuts [] [] (by simp)
  have ended : readTokens [] (v.tokens.reverse ++ []) = (v.tokens.reverse ++ [], true) := by
    rw [readTokens]
    rfl
  have built := h.builds [] []
  rw [List.append_nil] at cut built
  rw [ended, List.append_nil] at cut
  rw [read?, tokens?, cut]
  simp only [List.reverse_reverse, Option.bind_some, built]
  rw [build]

theorem newline_not_mem_renderText {units : List Nat} (h : ∀ u ∈ units, IsUnit u) :
    '\n' ∉ renderText units := by
  intro hmem
  rw [renderText, List.mem_append, List.mem_cons, List.mem_flatMap, List.mem_singleton] at hmem
  rcases hmem with (hquote | ⟨unit, hunit, hc⟩) | hquote
  · exact absurd hquote (by decide)
  · exact newline_not_mem_renderUnit (h unit hunit) hc
  · exact absurd hquote (by decide)

theorem newline_not_mem_renderItems {items : List Json} (h : ∀ v ∈ items, '\n' ∉ v.render) :
    '\n' ∉ renderItems items := by
  induction items with
  | nil => simp [renderItems]
  | cons v rest ih =>
    have hv := h v (by simp)
    cases rest with
    | nil => rwa [renderItems]
    | cons w rest =>
      have hrest := ih fun u hu => h u (by simp [List.mem_cons.1 hu])
      simp [renderItems, hv, hrest]

theorem newline_not_mem_renderMembers {members : List (List Nat × Json)}
    (hkeys : ∀ m ∈ members, ∀ u ∈ m.1, IsUnit u) (h : ∀ m ∈ members, '\n' ∉ m.2.render) :
    '\n' ∉ renderMembers members := by
  induction members with
  | nil => simp [renderMembers]
  | cons m rest ih =>
    obtain ⟨key, v⟩ := m
    have hkey := newline_not_mem_renderText (hkeys (key, v) (by simp))
    have hv : '\n' ∉ v.render := h (key, v) (by simp)
    cases rest with
    | nil => simp [renderMembers, hkey, hv]
    | cons n rest =>
      have hrest := ih (fun u hu => hkeys u (by simp [List.mem_cons.1 hu])) fun u hu =>
        h u (by simp [List.mem_cons.1 hu])
      simp [renderMembers, hkey, hv, hrest]

theorem WellFormed.newline_not_mem {v : Json} (h : v.WellFormed) : '\n' ∉ v.render := by
  induction h with
  | null => rw [render]; decide
  | bool b => cases b <;> (rw [render]; decide)
  | number _ hchars =>
    rw [render]
    intro hmem
    exact absurd (hchars _ hmem) (by decide)
  | text hunits =>
    rw [render]
    exact newline_not_mem_renderText hunits
  | array _ ih => simp [render, newline_not_mem_renderItems ih]
  | object hkeys _ ih => simp [render, newline_not_mem_renderMembers hkeys ih]

theorem wellFormed_ofString (s : String) : (ofString s).WellFormed := by
  apply WellFormed.text
  intro u hu
  obtain ⟨c, -, rfl⟩ := List.mem_map.1 hu
  exact isUnit_toNat c

theorem afterWhole_digits (n : Nat) : afterWhole (digits n) = some [] := by
  unfold afterWhole
  split
  · rename_i s hs
    by_cases hn : 0 < n
    · exact absurd (by rw [hs]; rfl) (head?_digits_ne hn)
    · obtain rfl : n = 0 := by omega
      exact congrArg some (List.cons.inj hs).2.symm
  · have all : ∀ c ∈ digits n, c.isDigit = true := fun c => isDigit_of_mem_digits
    have take := List.takeWhile_eq_self_iff.2 all
    have drop := List.dropWhile_eq_nil_iff.2 all
    unfold someDigits
    split
    · rename_i hnil
      rw [take] at hnil
      exact absurd hnil Nat.toDigits_ne_nil
    · rw [drop]

theorem wellFormed_ofNat (n : Nat) : (ofNat n).WellFormed := by
  have all : ∀ c ∈ digits n, c.isDigit = true := fun c => isDigit_of_mem_digits
  apply WellFormed.number
  · unfold isNumber
    split
    · rename_i hminus
      exact absurd (all '-' (by simp [hminus])) (by decide)
    · dsimp only
      rw [afterWhole_digits]
      rfl
  · intro c hc
    simp [isNumberChar, all c hc]

end SeriesBench.Json
