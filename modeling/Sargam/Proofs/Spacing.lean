import Sargam.Text.Blank

/-!
# Words laid out with blanks

Words can be laid out in a text with any blanks between them and at its ends. Whatever the
blanks are, the words of the text are those words again.

* `IsGap`, `IsWord`: texts of blanks alone, and non-empty texts without blanks.
* `Spaced`: a list of words laid out as a text.
* `words_of_spaced`, `spaced_words`: the words that are read are the words that were laid out, and
  every text is laid out from its words.
* `words_append_gap_append`, `words_intercalate`: the words of texts with blanks between them.
* `spaced_intercalate`: words joined by single spaces are laid out.
* `words_trim`, `trim_of_words_eq_singleton`: blanks at the ends do not matter, and without them a
  text of one word is that word.
-/

namespace Sargam.Text

/-! ## Gaps -/

/-- A text of blanks, of any kind and number. -/
def IsGap (text : String) : Prop := text.toList.all isBlank = true

instance (text : String) : Decidable (IsGap text) :=
  inferInstanceAs (Decidable (text.toList.all isBlank = true))

/-- A text that blanks can set off as a word. -/
def IsWord (text : String) : Prop := text ≠ "" ∧ ∀ c ∈ text.toList, isBlank c = false

theorem isBlank_eq_false {p : Char → Bool} (hp : blanks.any p = false) {c : Char}
    (hc : p c = true) : isBlank c = false := by
  cases hblank : isBlank c with
  | false => rfl
  | true =>
    have hany : blanks.any p = true :=
      List.any_eq_true.mpr ⟨c, List.contains_iff_mem.mp hblank, hc⟩
    rw [hp] at hany
    cases hany

theorem isGap_empty : IsGap "" := by decide

theorem isGap_space : IsGap " " := by decide

theorem isGap_iff {gap : String} : IsGap gap ↔ ∀ c ∈ gap.toList, isBlank c = true :=
  List.all_eq_true

theorem isGap_append {gap more : String} (h : IsGap gap) (hmore : IsGap more) :
    IsGap (gap ++ more) := by
  rw [isGap_iff, String.toList_append]
  exact fun c hc => (List.mem_append.mp hc).elim (isGap_iff.mp h c) (isGap_iff.mp hmore c)

theorem isGap_ofList {cs : List Char} (h : ∀ c ∈ cs, isBlank c = true) :
    IsGap (String.ofList cs) := by
  rw [isGap_iff, String.toList_ofList]
  exact h

theorem wordChars_gap_append {gap : List Char} (h : ∀ c ∈ gap, isBlank c = true)
    (cs : List Char) : wordChars (gap ++ cs) = wordChars cs := by
  induction gap with
  | nil => rfl
  | cons c gap ih =>
    have hc := h c List.mem_cons_self
    have hgap := ih fun b hb => h b (List.mem_cons_of_mem _ hb)
    exact (wordChars_append_cons [] (gap ++ cs) hc).trans hgap

theorem wordChars_gap {gap : List Char} (h : ∀ c ∈ gap, isBlank c = true) :
    wordChars gap = [] := by
  have hnil := wordChars_gap_append h []
  rwa [List.append_nil] at hnil

/-- Blanks between two texts keep their words apart. -/
theorem wordChars_append_gap_append {gap : List Char} (h : ∀ c ∈ gap, isBlank c = true)
    (hne : gap ≠ []) (before after : List Char) :
    wordChars (before ++ (gap ++ after)) = wordChars before ++ wordChars after := by
  cases gap with
  | nil => exact absurd rfl hne
  | cons c gap =>
    rw [List.cons_append, wordChars_append_cons before (gap ++ after) (h c List.mem_cons_self),
      wordChars_gap_append fun b hb => h b (List.mem_cons_of_mem _ hb)]

theorem wordChars_append_gap {gap : List Char} (h : ∀ c ∈ gap, isBlank c = true)
    (cs : List Char) : wordChars (cs ++ gap) = wordChars cs := by
  by_cases hne : gap = []
  · rw [hne, List.append_nil]
  · have happ := wordChars_append_gap_append h hne cs []
    rwa [List.append_nil, wordChars_nil, List.append_nil] at happ

/-! ## Words that are read -/

/-- What is cut at is in no piece. -/
theorem eq_false_of_mem_splitOnP {cut : Char → Bool} {cs piece : List Char}
    (h : piece ∈ cs.splitOnP cut) : ∀ c ∈ piece, cut c = false := by
  induction cs generalizing piece with
  | nil =>
    rw [List.splitOnP_nil, List.mem_singleton] at h
    subst h
    simp
  | cons first rest ih =>
    rw [List.splitOnP_cons_eq_if_modifyHead] at h
    split at h
    · rcases List.mem_cons.mp h with rfl | hrest
      · simp
      · exact ih hrest
    · rename_i hfirst
      -- The first piece of the rest has one character more.
      obtain ⟨next, others, hpieces⟩ :=
        List.exists_cons_of_ne_nil (List.splitOnP_ne_nil cut rest)
      rw [hpieces] at h ih
      rcases List.mem_cons.mp h with rfl | hothers
      · exact List.forall_mem_cons.mpr ⟨by simpa using hfirst, ih List.mem_cons_self⟩
      · exact ih (List.mem_cons_of_mem _ hothers)

theorem isWord_ofList {cs : List Char} (hne : cs ≠ []) (h : ∀ c ∈ cs, isBlank c = false) :
    IsWord (String.ofList cs) := by
  refine ⟨fun hempty => hne (String.ofList_eq_empty_iff.mp hempty), ?_⟩
  rw [String.toList_ofList]
  exact h

theorem isWord_of_mem_words {text word : String} (h : word ∈ words text) : IsWord word := by
  obtain ⟨piece, hpiece, rfl⟩ := List.mem_map.mp h
  obtain ⟨hsplit, hne⟩ := List.mem_filter.mp hpiece
  exact isWord_ofList (by simpa using hne) (eq_false_of_mem_splitOnP hsplit)

/-! ## Layouts -/

/-- Words laid out as a text: there is a gap between any two of them, and there may be blanks
before the first and after the last. -/
inductive Spaced : List String → String → Prop where
  | nil {gap : String} (hgap : IsGap gap) : Spaced [] gap
  | last {lead word tail : String} (hlead : IsGap lead) (htail : IsGap tail) :
      Spaced [word] (lead ++ word ++ tail)
  | cons {lead word gap text : String} {rest : List String} (hlead : IsGap lead)
      (hgap : IsGap gap) (hne : gap ≠ "") (hrest : Spaced rest text) :
      Spaced (word :: rest) (lead ++ word ++ gap ++ text)

theorem wordChars_word {word : String} (h : IsWord word) :
    wordChars word.toList = [word.toList] := by
  apply wordChars_eq_singleton _ h.2
  intro hnil
  exact h.1 (String.toList_eq_nil_iff.mp hnil)

/-- **Blanks do not matter.** The words of a text are the words that it was laid out from. -/
theorem words_of_spaced {list : List String} {text : String} (h : Spaced list text)
    (hwords : ∀ word ∈ list, IsWord word) : words text = list := by
  induction h with
  | nil hgap => rw [words, wordChars_gap (isGap_iff.mp hgap), List.map_nil]
  | @last lead word tail hlead htail =>
    have hword := hwords word List.mem_cons_self
    rw [words, String.toList_append, String.toList_append,
      wordChars_append_gap (isGap_iff.mp htail), wordChars_gap_append (isGap_iff.mp hlead),
      wordChars_word hword, List.map_singleton, String.ofList_toList]
  | @cons lead word gap text rest hlead hgap hne hrest ih =>
    have hword := hwords word List.mem_cons_self
    have hafter : words text = rest := ih fun w hw => hwords w (List.mem_cons_of_mem _ hw)
    have hgapne : gap.toList ≠ [] := fun hnil => hne (String.toList_eq_nil_iff.mp hnil)
    rw [words, String.toList_append, String.toList_append, String.toList_append,
      List.append_assoc, wordChars_append_gap_append (isGap_iff.mp hgap) hgapne,
      wordChars_gap_append (isGap_iff.mp hlead), wordChars_word hword, List.map_append,
      List.map_singleton, String.ofList_toList]
    exact congrArg (word :: ·) hafter

/-- What is dropped from the front of a list is a run of characters of one kind, and what is left
begins with none of them. -/
theorem exists_append_dropWhile (p : Char → Bool) (cs : List Char) :
    ∃ run, cs = run ++ cs.dropWhile p ∧ (∀ c ∈ run, p c = true) ∧
      ∀ c, (cs.dropWhile p).head? = some c → p c = false := by
  refine ⟨cs.takeWhile p, List.takeWhile_append_dropWhile.symm,
    List.all_eq_true.mp List.all_takeWhile, fun c hc => ?_⟩
  have hhead := List.head?_dropWhile_not p cs
  rwa [hc] at hhead

/-- Every text is laid out from its words. -/
theorem spaced_words (text : String) : Spaced (words text) text := by
  -- What stands after the first word and a blank is shorter.
  induction hlength : text.toList.length using Nat.strongRecOn generalizing text with
  | ind length ih =>
    obtain ⟨lead, hcut, hlead, hbody⟩ := exists_append_dropWhile isBlank text.toList
    generalize text.toList.dropWhile isBlank = body at hcut hbody
    obtain ⟨run, hword, hrun, hrest⟩ := exists_append_dropWhile (fun c => !isBlank c) body
    generalize body.dropWhile (fun c => !isBlank c) = rest at hword hrest
    have hrun : ∀ c ∈ run, isBlank c = false := fun c hc => by simpa using hrun c hc
    have hlead := isGap_ofList hlead
    have htext : text = String.ofList lead ++ String.ofList run ++ String.ofList rest := by
      rw [← String.ofList_append, ← String.ofList_append, List.append_assoc, ← hword, ← hcut,
        String.ofList_toList]
    cases rest with
    | nil =>
      by_cases hne : run = []
      · have hgap : IsGap text := by
          rw [htext, hne]
          simpa using hlead
        rw [words_of_spaced (.nil hgap) nofun]
        exact .nil hgap
      · have hspaced : Spaced [String.ofList run] text := htext ▸ .last hlead isGap_empty
        rwa [words_of_spaced hspaced (List.forall_mem_singleton.mpr (isWord_ofList hne hrun))]
    | cons blank more =>
      have hblank : isBlank blank = true := by simpa using hrest blank rfl
      have hne : run ≠ [] := by
        rintro rfl
        subst hword
        exact Bool.false_ne_true ((hbody blank rfl).symm.trans hblank)
      have hgap : IsGap (String.ofList [blank]) :=
        isGap_ofList (List.forall_mem_singleton.mpr hblank)
      have hmore : String.ofList (blank :: more) = String.ofList [blank] ++ String.ofList more := by
        rw [← String.ofList_append, List.singleton_append]
      have hshorter : (String.ofList more).toList.length < length := by
        rw [← hlength, hcut, hword, String.toList_ofList]
        simp only [List.length_append, List.length_cons]
        omega
      have hspaced : Spaced (String.ofList run :: words (String.ofList more)) text := by
        rw [htext, hmore, ← String.append_assoc]
        exact .cons hlead hgap (by simp) (ih _ hshorter _ rfl)
      rwa [words_of_spaced hspaced (List.forall_mem_cons.mpr
        ⟨isWord_ofList hne hrun, fun word => isWord_of_mem_words⟩)]

/-- Blanks between two texts keep their words apart. -/
theorem words_append_gap_append {gap : String} (h : IsGap gap) (hne : gap ≠ "")
    (before after : String) :
    words (before ++ gap ++ after) = words before ++ words after := by
  have hgap : gap.toList ≠ [] := fun hnil => hne (String.toList_eq_nil_iff.mp hnil)
  rw [words, String.toList_append, String.toList_append, List.append_assoc,
    wordChars_append_gap_append (isGap_iff.mp h) hgap, List.map_append]
  rfl

theorem words_gap_append {gap : String} (h : IsGap gap) (text : String) :
    words (gap ++ text) = words text := by
  rw [words, String.toList_append, wordChars_gap_append (isGap_iff.mp h), words]

theorem words_append_gap {gap : String} (h : IsGap gap) (text : String) :
    words (text ++ gap) = words text := by
  rw [words, String.toList_append, wordChars_append_gap (isGap_iff.mp h), words]

theorem words_empty : words "" = [] := rfl

/-- The words of texts with blanks between them are those of the single texts. -/
theorem words_intercalate {gap : String} (h : IsGap gap) (hne : gap ≠ "") (texts : List String) :
    words (gap.intercalate texts) = texts.flatMap words := by
  induction texts with
  | nil => rw [String.intercalate_nil, words_empty, List.flatMap_nil]
  | cons text rest ih =>
    cases rest with
    | nil => simp
    | cons next rest =>
      rw [String.intercalate_cons_cons, words_append_gap_append h hne, ih]
      rfl

/-- A word alone is a text of that one word. -/
theorem words_of_isWord {word : String} (h : IsWord word) : words word = [word] := by
  rw [words, wordChars_word h, List.map_singleton, String.ofList_toList]

/-- Words joined by single spaces are laid out. -/
theorem spaced_intercalate (list : List String) : Spaced list (" ".intercalate list) := by
  induction list with
  | nil => exact .nil isGap_empty
  | cons word rest ih =>
    cases rest with
    | nil =>
      have hword : " ".intercalate [word] = "" ++ word ++ "" := by
        rw [String.intercalate_singleton, String.empty_append, String.append_empty]
      rw [hword]
      exact .last isGap_empty isGap_empty
    | cons next rest =>
      have hjoin : " ".intercalate (word :: next :: rest) =
          "" ++ word ++ " " ++ " ".intercalate (next :: rest) := by
        rw [String.intercalate_cons_cons, String.empty_append]
      rw [hjoin]
      exact .cons isGap_empty isGap_space (by decide) ih

/-! ## Trimming -/

/-- Trimming takes blanks off both ends of a text. -/
theorem exists_gaps_trim (text : String) :
    ∃ lead tail, IsGap lead ∧ IsGap tail ∧ text = lead ++ trim text ++ tail := by
  obtain ⟨lead, hfront, hlead, -⟩ := exists_append_dropWhile isBlank text.toList
  obtain ⟨tail, hback, htail, -⟩ :=
    exists_append_dropWhile isBlank (text.toList.dropWhile isBlank).reverse
  have hbody : text.toList.dropWhile isBlank = trimChars text.toList ++ tail.reverse := by
    rw [trimChars, ← List.reverse_append, ← hback, List.reverse_reverse]
  refine ⟨String.ofList lead, String.ofList tail.reverse, isGap_ofList hlead,
    isGap_ofList fun c hc => htail c (List.mem_reverse.mp hc), ?_⟩
  rw [trim, ← String.ofList_append, ← String.ofList_append, List.append_assoc, ← hbody, ← hfront,
    String.ofList_toList]

theorem words_trim (text : String) : words (trim text) = words text := by
  obtain ⟨lead, tail, hlead, htail, htext⟩ := exists_gaps_trim text
  have hwords := words_append_gap htail (lead ++ trim text)
  rw [words_gap_append hlead, ← htext] at hwords
  exact hwords.symm

theorem dropWhile_word_append {word : List Char} (hne : word ≠ [])
    (h : ∀ c ∈ word, isBlank c = false) (rest : List Char) :
    (word ++ rest).dropWhile isBlank = word ++ rest := by
  obtain ⟨c, word, rfl⟩ := List.exists_cons_of_ne_nil hne
  have hc := h c List.mem_cons_self
  rw [List.cons_append, List.dropWhile_cons_of_neg (by simp [hc])]

/-- A word with blanks around it is trimmed to the word. -/
theorem trim_gap_append {lead word tail : String} (hlead : IsGap lead) (hword : IsWord word)
    (htail : IsGap tail) : trim (lead ++ word ++ tail) = word := by
  have hne : word.toList ≠ [] := fun hnil => hword.1 (String.toList_eq_nil_iff.mp hnil)
  have hback : ∀ c ∈ tail.toList.reverse, isBlank c = true :=
    fun c hc => isGap_iff.mp htail c (List.mem_reverse.mp hc)
  have hne' : word.toList.reverse ≠ [] := by simpa using hne
  have hreverse := dropWhile_word_append hne' (fun c hc => hword.2 c (List.mem_reverse.mp hc)) []
  rw [List.append_nil] at hreverse
  rw [trim, trimChars, String.toList_append, String.toList_append, List.append_assoc,
    List.dropWhile_append_of_pos (isGap_iff.mp hlead), dropWhile_word_append hne hword.2,
    List.reverse_append, List.dropWhile_append_of_pos hback, hreverse, List.reverse_reverse,
    String.ofList_toList]

/-- A text of one word is trimmed to that word. -/
theorem trim_of_words_eq_singleton {text word : String} (h : words text = [word]) :
    trim text = word := by
  have hword : IsWord word := isWord_of_mem_words (h ▸ List.mem_singleton_self word)
  have hspaced := spaced_words text
  rw [h] at hspaced
  cases hspaced with
  | last hlead htail => exact trim_gap_append hlead hword htail
  | cons hlead hgap hne hrest =>
    cases hrest with
    | nil htail =>
      rw [String.append_assoc]
      exact trim_gap_append hlead hword (isGap_append hgap htail)

theorem trim_of_isWord {word : String} (h : IsWord word) : trim word = word :=
  trim_of_words_eq_singleton (words_of_isWord h)

end Sargam.Text
