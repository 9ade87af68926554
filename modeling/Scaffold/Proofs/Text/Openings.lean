import Scaffold.Proofs.Text.Tags
import Scaffold.Text.Markup

/-!
# What a text opens in a template

A template is read character by character. In element content an angle bracket opens a tag, and a
pair of braces an interpolation; within a tag, quotation marks keep values apart. `openings` lists
what is opened. Element content that was a text before opens no tag, and it opens an interpolation
exactly where the text has three braces one after another (`openings_contentText_eq_nil_iff`): each
pair is parted, but what follows the second brace can make a pair with it.
-/

namespace Scaffold.Text

/-- What a character of a template can open. -/
inductive Opening where
  | tag
  | interpolation
deriving Repr, DecidableEq

/-- Where a reader of a template stands. -/
inductive Spot where
  | content
  /-- In element content, behind a brace that may be the first of a pair. -/
  | brace
  | tag
  /-- In the value of an attribute. -/
  | value
deriving Repr, DecidableEq

/-- What a character opens, and where the reader stands behind it. -/
def Spot.next : Spot → Char → List Opening × Spot
  | .content, c =>
    if c = '<' then ([.tag], .tag) else if c = '{' then ([], .brace) else ([], .content)
  | .brace, c =>
    if c = '<' then ([.tag], .tag)
    else if c = '{' then ([.interpolation], .content) else ([], .content)
  | .tag, c => if c = '>' then ([], .content) else if c = '"' then ([], .value) else ([], .tag)
  | .value, c => if c = '"' then ([], .tag) else ([], .value)

/-- Reads a text from a spot on. -/
def Spot.walk (p : Spot) : List Char → List Opening × Spot
  | [] => ([], p)
  | c :: rest =>
    let behind := (p.next c).2.walk rest
    ((p.next c).1 ++ behind.1, behind.2)

/-- What a text opens that stands in element content. -/
def openings (cs : List Char) : List Opening := (Spot.walk .content cs).1

/-! ### Reading on -/

/-- Reading a text from a spot leads to another one. -/
def Leads (p : Spot) (s : String) (q : Spot) : Prop := (p.walk s.toList).2 = q

section

variable {p q r : Spot} {s t : String} {cs rest : List Char}

theorem Spot.walk_append (p : Spot) (cs rest : List Char) :
    p.walk (cs ++ rest)
      = ((p.walk cs).1 ++ ((p.walk cs).2.walk rest).1, ((p.walk cs).2.walk rest).2) := by
  induction cs generalizing p with
  | nil => rfl
  | cons c cs ih =>
    rw [List.cons_append]
    simp only [Spot.walk, ih, List.append_assoc]

theorem Leads.append (hs : Leads p s q) (ht : Leads q t r) : Leads p (s ++ t) r := by
  unfold Leads at *
  rw [String.toList_append, Spot.walk_append, hs, ht]

theorem leads_empty (p : Spot) : Leads p "" p := rfl

/-- The characters of a literal are known, so that they are read from a list. -/
theorem Leads.literal (h : (p.walk cs).2 = q) : Leads p (String.ofList cs) q := by
  unfold Leads
  rwa [String.toList_ofList]

/-- What leads from content to content opens the same whatever follows it. -/
theorem Leads.contributes (h : Leads .content s .content) :
    Contributes openings (openings s.toList) s := by
  intro rest
  unfold Leads at h
  rw [openings, Spot.walk_append, h]
  rfl

/-- Behind a text that leads to element content, another one opens what it opens there. -/
theorem Leads.openings_append (h : Leads .content s .content) (t : String) :
    openings (s ++ t).toList = openings s.toList ++ openings t.toList := by
  rw [String.toList_append]
  exact h.contributes t.toList

/-- Characters that mean nothing where they stand lead to where they begin. -/
theorem walk_eq_self (h : ∀ c ∈ cs, p.next c = ([], p)) : p.walk cs = ([], p) := by
  induction cs with
  | nil => rfl
  | cons c cs ih =>
    obtain ⟨hc, hcs⟩ := List.forall_mem_cons.mp h
    simp only [Spot.walk, hc, ih hcs, List.append_nil]

/-- The value of an attribute lasts up to its quotation mark. -/
theorem walk_value (h : '"' ∉ cs) : Spot.walk .value cs = ([], .value) := by
  refine walk_eq_self fun c hc => ?_
  have hquote : c ≠ '"' := fun heq => h (heq ▸ hc)
  simp [Spot.next, hquote]

theorem leads_value (h : '"' ∉ s.toList) : Leads .value s .value := by
  unfold Leads
  rw [walk_value h]

/-- What stands in the value of an attribute opens nothing. -/
theorem openings_value (hs : Leads .content s .value) {v : String} (hv : '"' ∉ v.toList) :
    openings (s ++ v ++ t).toList = openings (s ++ t).toList := by
  unfold Leads at hs
  simp [openings, Spot.walk_append, hs, walk_value hv]

/-- A text that opens nothing anywhere, and closes nothing. -/
structure Inert (s : String) : Prop where
  opening : '<' ∉ s.toList
  closing : '>' ∉ s.toList
  quote : '"' ∉ s.toList
  brace : '{' ∉ s.toList

theorem Inert.leads (h : Inert s) (hp : p ≠ .brace) : Leads p s p := by
  unfold Leads
  rw [walk_eq_self]
  intro c hc
  have hopening : c ≠ '<' := fun heq => h.opening (heq ▸ hc)
  have hclosing : c ≠ '>' := fun heq => h.closing (heq ▸ hc)
  have hquote : c ≠ '"' := fun heq => h.quote (heq ▸ hc)
  have hbrace : c ≠ '{' := fun heq => h.brace (heq ▸ hc)
  cases p with
  | brace => exact absurd rfl hp
  | content | tag | value => simp [Spot.next, hopening, hclosing, hquote, hbrace]

/-! ### Tags -/

theorem walk_isWhole {quoted : Bool} (h : isWhole quoted cs = true) (hclosing : '>' ∉ cs) :
    ((if quoted then Spot.value else .tag).walk cs).2 = .tag := by
  induction cs generalizing quoted with
  | nil =>
    obtain rfl : quoted = false := by simpa [isWhole] using h
    rfl
  | cons c cs ih =>
    rw [isWhole, Bool.and_eq_true] at h
    rw [List.mem_cons, not_or] at hclosing
    have hnext : ((if quoted then Spot.value else .tag).next c).2
        = if quoted != (c == '"') then .value else .tag := by
      by_cases hc : c = '"' <;> cases quoted <;> simp [Spot.next, hc, Ne.symm hclosing.1]
    rw [Spot.walk, hnext]
    exact ih h.2 hclosing.2

/-- A part of a tag leaves it open. -/
theorem IsPart.leads (h : IsPart s) : Leads .tag s .tag := walk_isWhole h.whole h.closing

/-- A tag leads back to element content. -/
theorem leads_openTag {name : String} {others : List String}
    (hname : isAttributeName name = true) (h : ∀ part ∈ others, IsPart part) :
    Leads .content (openTag ("<" ++ name) others ++ ">") .content := by
  have hfirst : Leads .tag name .tag := by
    refine IsPart.leads ⟨?_, notMem_of_isAttributeName hname rfl,
      notMem_of_isAttributeName hname rfl⟩
    have hblank : ' ' ∉ name.toList := notMem_of_isAttributeName hname rfl
    have hquote : '"' ∉ name.toList := notMem_of_isAttributeName hname rfl
    simpa [isWhole] using @isWhole_append_of_notMem name.toList [] hblank hquote
  have hothers : Leads .tag (String.join (others.map (" " ++ ·))) .tag := by
    induction others with
    | nil => exact leads_empty _
    | cons part others ih =>
      obtain ⟨hpart, hothers⟩ := List.forall_mem_cons.mp h
      rw [List.map_cons, String.join_cons]
      exact .append (.append (q := .tag) (.literal rfl) hpart.leads) (ih hothers)
  exact .append (.append (.append (.literal rfl) hfirst) hothers) (.literal rfl)

/-! ### Element content -/

/-- Without angle brackets one stays in element content, and opens no tags. -/
theorem walk_of_notMem (h : '<' ∉ cs) (hp : p = .content ∨ p = .brace) :
    ((p.walk cs).2 = .content ∨ (p.walk cs).2 = .brace)
      ∧ ∀ o ∈ (p.walk cs).1, o = .interpolation := by
  induction cs generalizing p with
  | nil => exact ⟨hp, nofun⟩
  | cons c cs ih =>
    rw [List.mem_cons, not_or] at h
    have hnext : ((p.next c).2 = .content ∨ (p.next c).2 = .brace)
        ∧ ∀ o ∈ (p.next c).1, o = .interpolation := by
      rcases hp with rfl | rfl <;> by_cases hc : c = '{' <;> simp [Spot.next, Ne.symm h.1, hc]
    obtain ⟨hend, hopened⟩ := ih h.2 hnext.1
    exact ⟨hend, List.forall_mem_append.mpr ⟨hnext.2, hopened⟩⟩

/-- Such a text opens nothing exactly if it has no pair of braces, counting one in front of it. -/
theorem walk_eq_nil_iff (h : '<' ∉ cs) :
    ((Spot.walk .content cs).1 = [] ↔ ¬ ['{', '{'] <:+: cs)
      ∧ ((Spot.walk .brace cs).1 = [] ↔ ¬ ['{', '{'] <:+: '{' :: cs) := by
  -- both spots at once, since a brace leads from the first to the second
  induction cs with
  | nil => exact ⟨by simp [Spot.walk], by simp [Spot.walk, List.infix_cons_iff]⟩
  | cons c cs ih =>
    rw [List.mem_cons, not_or] at h
    obtain ⟨hcontent, hbrace⟩ := ih h.2
    by_cases hc : c = '{'
    · subst hc
      refine ⟨?_, ?_⟩
      · simpa [Spot.walk, Spot.next] using hbrace
      · simp [Spot.walk, Spot.next, List.infix_cons_iff]
    · have hnext : (Spot.next .content c).2 = .content ∧ (Spot.next .content c).1 = []
          ∧ Spot.next .brace c = Spot.next .content c := by
        simp [Spot.next, Ne.symm h.1, hc]
      have hpair : ¬ ['{', '{'] <+: c :: cs := by
        simp [Ne.symm hc]
      refine ⟨?_, ?_⟩
      · rw [List.infix_cons_iff, or_iff_right hpair, ← hcontent]
        simp [Spot.walk, hnext]
      · have hfront : ¬ ['{', '{'] <+: '{' :: c :: cs := by
          simp [Ne.symm hc]
        rw [List.infix_cons_iff, or_iff_right hfront, List.infix_cons_iff, or_iff_right hpair,
          ← hcontent]
        simp [Spot.walk, hnext]

end

/-! ### Texts in element content -/

section

open Markup

variable {cs : List Char}

theorem head_partBraces (rest : List Char) (x : Char) : [x] <+: partBraces rest ↔ [x] <+: rest := by
  unfold partBraces
  split <;> simp

/-- Parting the pairs leaves one where three braces stand together. -/
theorem infix_partBraces_iff :
    ['{', '{'] <:+: partBraces cs ↔ ['{', '{', '{'] <:+: cs := by
  induction cs using partBraces.induct with
  | case1 rest ih =>
    -- the second brace of the pair makes another one with what follows
    have hbehind : ['{', '{'] <+: '{' :: partBraces rest ↔ ['{'] <+: rest := by
      rw [List.cons_prefix_cons, and_iff_right rfl, head_partBraces]
    have hfront : ['{', '{', '{'] <+: '{' :: '{' :: rest ↔ ['{'] <+: rest := by
      simp
    have hmiddle : ['{', '{', '{'] <+: '{' :: rest → ['{'] <+: rest := by
      rw [List.cons_prefix_cons]
      exact fun h => (List.prefix_append ['{'] ['{']).trans h.2
    have hparted : ¬ ['{', '{'] <+: '{' :: ' ' :: '{' :: partBraces rest := by
      simp
    have hblank : ¬ ['{', '{'] <+: ' ' :: '{' :: partBraces rest := by
      simp
    rw [partBraces, List.infix_cons_iff, or_iff_right hparted, List.infix_cons_iff,
      or_iff_right hblank, List.infix_cons_iff, hbehind, ih, List.infix_cons_iff, hfront,
      List.infix_cons_iff]
    grind
  | case2 c rest hne ih =>
    -- no pair begins here
    have hparted : ¬ ['{', '{'] <+: c :: partBraces rest := by
      rw [List.cons_prefix_cons, head_partBraces]
      rintro ⟨rfl, rest', rfl⟩
      exact hne rest' rfl rfl
    have hfront : ¬ ['{', '{', '{'] <+: c :: rest := by
      rw [List.cons_prefix_cons]
      rintro ⟨rfl, rest', rfl⟩
      exact hne _ rfl rfl
    rw [partBraces.eq_2 _ _ hne, List.infix_cons_iff, or_iff_right hparted, List.infix_cons_iff,
      or_iff_right hfront, ih]
  | case3 => simp [partBraces]

/-- A character of element content stands for itself, or is written as an entity. -/
theorem contentChar_eq_or (c : Char) : contentChar c = [c] ∧ c ≠ '<' ∧ c ≠ '>'
    ∨ c ≠ '{' ∧ ∃ rest, contentChar c = '&' :: rest ∧ '{' ∉ rest ∧ '<' ∉ rest ∧ '>' ∉ rest := by
  unfold contentChar
  split_ifs with hamp hlt hgt
  · exact .inr ⟨by rw [hamp]; decide, _, rfl, by decide⟩
  · exact .inr ⟨by rw [hlt]; decide, _, rfl, by decide⟩
  · exact .inr ⟨by rw [hgt]; decide, _, rfl, by decide⟩
  · exact .inl ⟨rfl, hlt, hgt⟩

theorem prefix_flatMap_contentChar_iff (n : Nat) (cs : List Char) :
    List.replicate n '{' <+: cs.flatMap contentChar ↔ List.replicate n '{' <+: cs := by
  induction n generalizing cs with
  | zero => simp
  | succ n ih =>
    cases cs with
    | nil => simp
    | cons c cs =>
      rw [List.flatMap_cons, List.replicate_succ]
      rcases contentChar_eq_or c with ⟨hc, -, -⟩ | ⟨hbrace, rest, hc, -⟩
      · rw [hc, List.singleton_append, List.cons_prefix_cons, List.cons_prefix_cons, ih]
      · simp [hc, Ne.symm hbrace]

/-- Entities neither make nor break a run of braces. -/
theorem occurrences_flatMap_contentChar (n : Nat) (cs : List Char) :
    occurrences (List.replicate (n + 1) '{') (cs.flatMap contentChar)
      = occurrences (List.replicate (n + 1) '{') cs := by
  have hhead : (List.replicate (n + 1) '{').head? = some '{' := rfl
  induction cs with
  | nil => rfl
  | cons c cs ih =>
    -- a character is kept, or it becomes an entity, and then neither has a brace
    rcases contentChar_eq_or c with ⟨hc, -, -⟩ | ⟨hbrace, rest, hc, hrest, -, -⟩
    · have hbegins := prefix_flatMap_contentChar_iff (n + 1) (c :: cs)
      rw [List.flatMap_cons, hc, List.singleton_append] at hbegins ⊢
      rw [occurrences, occurrences, ih]
      simp only [hbegins]
    · have hentity : '{' ∉ contentChar c := by
        rw [hc]
        exact List.not_mem_cons_of_ne_of_not_mem (by decide) hrest
      have hbare : '{' ∉ [c] := by
        rw [List.mem_singleton]
        exact Ne.symm hbrace
      have hsingle : occurrences (List.replicate (n + 1) '{') (c :: cs)
          = occurrences (List.replicate (n + 1) '{') [c]
            + occurrences (List.replicate (n + 1) '{') cs :=
        (isClosed_of_notMem hhead hbare).occurrences_append
      rw [List.flatMap_cons, (isClosed_of_notMem hhead hentity).occurrences_append,
        occurrences_of_notMem hhead hentity, ih, hsingle, occurrences_of_notMem hhead hbare]

/-- A text opens an interpolation in element content exactly if it has three braces one after
another. -/
theorem infix_contentText_iff (s : String) :
    ['{', '{'] <:+: (contentText s).toList ↔ ['{', '{', '{'] <:+: s.toList := by
  have hcount := occurrences_flatMap_contentChar 2 s.toList
  have hrun (cs : List Char) : occurrences ['{', '{', '{'] cs = 0 ↔ ¬ ['{', '{', '{'] <:+: cs :=
    occurrences_eq_zero_iff (List.cons_ne_nil _ _)
  rw [contentText, String.toList_ofList, encodeContent_eq, infix_partBraces_iff, ← not_iff_not,
    ← hrun, ← hrun]
  exact Eq.congr hcount rfl

/-- Parting braces adds nothing but blanks. -/
theorem mem_of_mem_partBraces {c : Char} (h : c ∈ partBraces cs) : c ∈ cs ∨ c = ' ' := by
  induction cs using partBraces.induct with
  | case1 rest ih =>
    rw [partBraces] at h
    simp only [List.mem_cons] at h ⊢
    rcases h with h | h | h | h
    · exact .inl (.inl h)
    · exact .inr h
    · exact .inl (.inl h)
    · exact (ih h).imp (fun h => .inr (.inr h)) id
  | case2 c' rest hne ih =>
    rw [partBraces.eq_2 _ _ hne] at h
    rcases List.mem_cons.mp h with rfl | h
    · exact .inl List.mem_cons_self
    · exact (ih h).imp (List.mem_cons_of_mem _) id
  | case3 => cases h

/-- Element content has no angle brackets. -/
theorem notMem_contentText (s : String) :
    '<' ∉ (contentText s).toList ∧ '>' ∉ (contentText s).toList := by
  have hnone : ∀ x, x = '<' ∨ x = '>' → x ∉ (contentText s).toList := by
    intro x hx
    rw [contentText, String.toList_ofList, encodeContent_eq]
    intro h
    have hblank : x ≠ ' ' := by rcases hx with rfl | rfl <;> decide
    obtain ⟨c, -, hc⟩ := List.mem_flatMap.mp ((mem_of_mem_partBraces h).resolve_right hblank)
    rcases contentChar_eq_or c with ⟨hself, hlt, hgt⟩ | ⟨-, rest, hentity, -, hlt, hgt⟩
    · obtain rfl : x = c := by simpa [hself] using hc
      exact hx.elim hlt hgt
    · rw [hentity, List.mem_cons] at hc
      rcases hx with rfl | rfl
      · exact hlt (hc.resolve_left (by decide))
      · exact hgt (hc.resolve_left (by decide))
  exact ⟨hnone '<' (.inl rfl), hnone '>' (.inr rfl)⟩

/-- Element content that was a text before opens no tags, -/
@[simp] theorem filter_openings_contentText (s : String) :
    (openings (contentText s).toList).filter (· = .tag) = [] := by
  refine List.filter_eq_nil_iff.mpr fun o ho => ?_
  rw [(walk_of_notMem (notMem_contentText s).1 (.inl rfl)).2 o ho]
  decide

/-- and it opens an interpolation exactly if the text has three braces one after another. -/
theorem openings_contentText_eq_nil_iff (s : String) :
    openings (contentText s).toList = [] ↔ ¬ ['{', '{', '{'] <:+: s.toList := by
  rw [← infix_contentText_iff]
  exact (walk_eq_nil_iff (notMem_contentText s).1).1

end

/-! ### Lines with texts in them -/

/-- Of two lists of openings, the first has some interpolations more. It has none more exactly if
`good` holds. -/
structure Fills (good : Prop) (xs ys : List Opening) : Prop where
  tags : xs.filter (· = .tag) = ys.filter (· = .tag)
  length : ys.length ≤ xs.length
  same : xs = ys ↔ good

/-- Lines open what other lines open, and some interpolations more unless `good` holds. -/
def FillsAll (good : Prop) (lines others : List String) : Prop :=
  ∃ items items' : List (List Opening), List.Forall₂ (Contributes openings) items lines
    ∧ List.Forall₂ (Contributes openings) items' others ∧ Fills good items.flatten items'.flatten

section

variable {good good' : Prop} {xs ys zs ws : List Opening}
  {lines lines' others others' : List String}

theorem Fills.refl (xs : List Opening) : Fills True xs xs := ⟨rfl, Nat.le_refl _, by simp⟩

theorem Fills.append (h : Fills good xs ys) (h' : Fills good' zs ws) :
    Fills (good ∧ good') (xs ++ zs) (ys ++ ws) where
  tags := by rw [List.filter_append, List.filter_append, h.tags, h'.tags]
  length := by
    rw [List.length_append, List.length_append]
    exact Nat.add_le_add h.length h'.length
  same := by
    rw [← h.same, ← h'.same]
    constructor
    · intro heq
      -- neither part is shorter, so that the parts are equal where the whole is
      have hlength := congrArg List.length heq
      rw [List.length_append, List.length_append] at hlength
      have hfront := h.length
      have hback := h'.length
      exact List.append_inj heq (by omega)
    · rintro ⟨rfl, rfl⟩
      rfl

theorem FillsAll.append (h : FillsAll good lines others) (h' : FillsAll good' lines' others') :
    FillsAll (good ∧ good') (lines ++ lines') (others ++ others') := by
  obtain ⟨items, items', hlines, hothers, hfills⟩ := h
  obtain ⟨others₁, others₂, hlines', hothers', hfills'⟩ := h'
  refine ⟨_, _, List.rel_append hlines hlines', List.rel_append hothers hothers', ?_⟩
  rw [List.flatten_append, List.flatten_append]
  exact hfills.append hfills'

theorem FillsAll.congr (h : FillsAll good lines others) (hgood : good ↔ good') :
    FillsAll good' lines others := by
  rwa [← propext hgood]

theorem fillsAll_nil : FillsAll True [] [] := ⟨[], [], .nil, .nil, .refl []⟩

/-- Lines that lead from content to content open what they open. -/
theorem fillsAll_self (h : ∀ line ∈ lines, Leads .content line .content) :
    FillsAll True lines lines := by
  have hlines : List.Forall₂ (Contributes openings)
      (lines.map fun l => openings l.toList) lines := by
    rw [List.forall₂_map_left_iff, List.forall₂_same]
    exact fun line hline => (h line hline).contributes
  exact ⟨_, _, hlines, hlines, .refl _⟩

/-- What is made of items one by one is compared item by item, -/
theorem FillsAll.map {α : Type} {items : List α} {holds : α → Prop} {f g : α → List String}
    (h : ∀ item ∈ items, FillsAll (holds item) (f item) (g item)) :
    FillsAll (∀ item ∈ items, holds item) (items.flatMap f) (items.flatMap g) := by
  induction items with
  | nil => exact fillsAll_nil.congr (by simp)
  | cons item rest ih =>
    obtain ⟨hitem, hrest⟩ := List.forall_mem_cons.mp h
    rw [List.flatMap_cons, List.flatMap_cons]
    exact (hitem.append (ih hrest)).congr List.forall_mem_cons.symm

/-- also with lines in between that open the same. -/
theorem FillsAll.intercalate {α : Type} {sep : List String} (hsep : FillsAll True sep sep)
    {items : List α} {holds : α → Prop} {f g : α → List String}
    (h : ∀ item ∈ items, FillsAll (holds item) (f item) (g item)) :
    FillsAll (∀ item ∈ items, holds item) (sep.intercalate (items.map f))
      (sep.intercalate (items.map g)) := by
  induction items with
  | nil => exact fillsAll_nil.congr (by simp)
  | cons item rest ih =>
    obtain ⟨hitem, hrest⟩ := List.forall_mem_cons.mp h
    cases rest with
    | nil => simpa using hitem
    | cons next others =>
      simp only [List.map_cons, List.intercalate_cons_cons] at ih ⊢
      refine ((hitem.append hsep).append (ih hrest)).congr ?_
      rw [and_true, List.forall_mem_cons (l := next :: others)]

/-- Joined lines open what the lines open, in front of any text. -/
theorem FillsAll.joined (h : FillsAll good lines others) (rest : String) :
    Fills good (openings ("\n".intercalate lines ++ rest).toList)
      (openings ("\n".intercalate others ++ rest).toList) := by
  obtain ⟨items, items', hlines, hothers, hfills⟩ := h
  have hbreak : Contributes openings [] "\n" := (Leads.literal rfl).contributes
  have hfirst := Contributes.joined hlines hbreak rest.toList
  have hsecond := Contributes.joined hothers hbreak rest.toList
  rw [String.toList_append, String.toList_append, hfirst, hsecond]
  simpa using hfills.append (.refl (openings rest.toList))

/-- A text that is put into element content before a tag opens what it opens by itself. What stands
in front of it may be written in another way. -/
theorem fillsAll_text {front other back s : String} {cs : List Char}
    (hfront : Leads .content front .content) (hother : Leads .content other .content)
    (hsame : openings front.toList = openings other.toList) (hback : Leads .content back .content)
    (htag : back.toList = '<' :: cs) :
    FillsAll (¬ ['{', '{', '{'] <:+: s.toList) [front ++ contentText s ++ back]
      [other ++ contentText "" ++ back] := by
  -- a brace at the end of the text is not the first one of a pair
  have hbrace : Spot.walk .brace back.toList = Spot.walk .content back.toList := by
    rw [htag]
    rfl
  have hend : (Spot.walk .content (contentText s).toList).2.walk back.toList
      = Spot.walk .content back.toList := by
    rcases (walk_of_notMem (notMem_contentText s).1 (.inl rfl)).1 with hend | hend
    · rw [hend]
    · rw [hend, hbrace]
  have hshown : Leads .content (contentText s ++ back) .content := by
    unfold Leads at hback ⊢
    rw [String.toList_append, Spot.walk_append, hend]
    exact hback
  have hopened : openings (contentText s ++ back).toList
      = openings (contentText s).toList ++ openings back.toList := by
    rw [String.toList_append, openings, Spot.walk_append, hend]
    rfl
  have hfills : Fills (¬ ['{', '{', '{'] <:+: s.toList) (openings (contentText s).toList) [] :=
    ⟨filter_openings_contentText s, Nat.zero_le _, openings_contentText_eq_nil_iff s⟩
  have hempty : contentText "" = "" := rfl
  rw [hempty, String.append_empty, String.append_assoc]
  refine ⟨_, _, .cons (hfront.append hshown).contributes .nil,
    .cons (hother.append hback).contributes .nil, ?_⟩
  rw [List.flatten_singleton, List.flatten_singleton, hfront.openings_append,
    hother.openings_append, hopened, hsame]
  simpa using (Fills.refl _).append (hfills.append (.refl (openings back.toList)))

end

end Scaffold.Text
