import Mathlib
import NativeInterop.Proofs.Identifier.Settling

namespace NativeInterop.Identifier

/-! What the canonical form takes from a raw name: its letters and digits in their order, up to
case, and the places where separators part them. -/

open Text Relation

variable {raw respelled word : List Char} {c : Char}

/-! ### Letters and digits -/

theorem flatten_words (raw : List Char) : (words raw).flatten = raw.filter Char.isAlphanum := by
  rw [words, List.flatten_filter_not_isEmpty, rawWords, flatten_segments, List.filter_filter]
  refine List.filter_congr fun c _ => ?_
  cases letter : c.isAlphanum with
  | true => simp [isSeparator_of_isAlphanum letter]
  | false => simp

theorem map_toLower_joinWords (raw : List Char) :
    (joinWords raw).map Char.toLower = (raw.filter Char.isAlphanum).map Char.toLower := by
  calc (joinWords raw).map Char.toLower
      = (words raw).flatMap fun word => (recase (capitalizeLeading word)).map Char.toLower := by
        rw [joinWords, List.map_flatMap]
    _ = (words raw).flatMap fun word => word.map Char.toLower :=
        List.flatMap_congr fun word _ => by
          rw [map_toLower_recase, map_toLower_capitalizeLeading]
    _ = (words raw).flatten.map Char.toLower := by rw [List.map_flatten, List.flatMap_def]
    _ = _ := by rw [flatten_words]

theorem map_toLower_settle (rounds : Nat) (word : List Char) :
    (settle rounds word).map Char.toLower = word.map Char.toLower := by
  induction rounds generalizing word with
  | zero => rfl
  | succ rounds ih =>
      rw [settle]
      split
      · rfl
      · rw [ih, map_toLower_recase]

theorem map_toLower_canonical (raw : List Char) :
    (canonical raw).map Char.toLower = (raw.filter Char.isAlphanum).map Char.toLower := by
  rw [canonical, map_toLower_settle, map_toLower_joinWords]

/-- The canonical form begins with the first letter or digit of the raw name, as a capital. -/
theorem head?_canonical (raw : List Char) :
    (canonical raw).head? = (raw.find? Char.isAlphanum).map Char.toUpper := by
  have letters := congrArg List.head? (map_toLower_canonical raw)
  rw [List.head?_map, List.head?_map, List.head?_filter] at letters
  cases first : (canonical raw).head? with
  | none =>
      rw [first] at letters
      cases found : raw.find? Char.isAlphanum with
      | none => rfl
      | some d => simp [found] at letters
  | some c =>
      have notSmall : ¬ c.isLower = true := by simp [leading_canonical raw c first]
      rw [first] at letters
      cases found : raw.find? Char.isAlphanum with
      | none => simp [found] at letters
      | some d =>
          have sameLetter : c.toLower = d.toLower := by simpa [found] using letters
          rw [Option.map_some, Option.some.injEq, ← Char.toUpper_eq_of_not_isLower notSmall,
            ← Char.toUpper_toLower_eq_toUpper c, sameLetter, Char.toUpper_toLower_eq_toUpper]

/-! ### Words on either side of a separator -/

theorem words_append_separator (separates : isSeparator c = true) (before after : List Char) :
    words (before ++ c :: after) = words before ++ words after := by
  rw [words, rawWords, List.filter_append, List.filter_cons_of_pos (by simp [separates]),
    segments_append_separator separates, List.filter_append]
  rfl

theorem words_append_ignored (joins : isSeparator c = false) (letter : c.isAlphanum = false)
    (before after : List Char) : words (before ++ c :: after) = words (before ++ after) := by
  rw [words, rawWords, List.filter_append, List.filter_cons_of_neg (by simp [joins, letter]),
    ← List.filter_append]
  rfl

theorem isSeparator_underscore : isSeparator '_' = true := rfl

theorem isWord_nil : IsWord [] := by
  simp [IsWord]

theorem words_of_isWord (accepted : IsWord word) (nonempty : word ≠ []) : words word = [word] := by
  have kept : word.filter (fun c => isSeparator c || c.isAlphanum) = word :=
    List.filter_eq_self.mpr fun c member => by simp [accepted c member]
  rw [words, rawWords, kept,
    segments_of_unseparated fun c member => isSeparator_of_isAlphanum (accepted c member)]
  simp [nonempty]

/-! ### Respelling -/

/-- A change of a raw name at one place that leaves its words alone. -/
inductive Respelling : List Char → List Char → Prop
  /-- A character comes in that is neither a separator nor an ASCII letter or digit. -/
  | ignored (before after : List Char) {c : Char} (joins : isSeparator c = false)
      (letter : c.isAlphanum = false) : Respelling (before ++ after) (before ++ c :: after)
  | replaced (before after : List Char) {c d : Char} (old : isSeparator c = true)
      (new : isSeparator d = true) : Respelling (before ++ c :: after) (before ++ d :: after)
  | doubled (before after : List Char) {c d : Char} (old : isSeparator c = true)
      (new : isSeparator d = true) : Respelling (before ++ c :: after) (before ++ c :: d :: after)
  | leading (raw : List Char) {c : Char} (new : isSeparator c = true) : Respelling raw (c :: raw)
  | trailing (raw : List Char) {c : Char} (new : isSeparator c = true) : Respelling raw (raw ++ [c])

theorem Respelling.words_eq (changed : Respelling raw respelled) : words raw = words respelled := by
  cases changed with
  | ignored before after joins letter => rw [words_append_ignored joins letter]
  | replaced before after old new => rw [words_append_separator old, words_append_separator new]
  | doubled before after old new =>
      have second := words_append_separator new [] after
      rw [words_append_separator old, words_append_separator old, ← List.nil_append (_ :: after),
        second]
      rfl
  | leading raw new => exact (words_append_separator new [] raw).symm
  | trailing raw new =>
      rw [words_append_separator new]
      exact (List.append_nil _).symm

theorem words_eq_of_respelled (same : EqvGen Respelling raw respelled) : words raw = words respelled := by
  induction same with
  | rel _ _ changed => exact changed.words_eq
  | refl => rfl
  | symm _ _ _ ih => exact ih.symm
  | trans _ _ _ _ _ first second => exact first.trans second

/-- The words of a name, each after an underscore, and one more underscore. -/
def underscored (words : List (List Char)) : List Char :=
  words.flatMap ('_' :: ·) ++ ['_']

/-- A name between underscores can be respelled until only its words are left, with one underscore
at each break; `word` holds the letters since the last break. -/
theorem respelled_underscored (before text : List Char) (accepted : IsWord word) :
    EqvGen Respelling (before ++ '_' :: (word ++ text) ++ ['_'])
      (before ++ underscored (words (word ++ text))) := by
  have underscore := isSeparator_underscore
  induction text generalizing before word with
  | nil =>
      by_cases empty : word = []
      · subst empty
        have changed := Respelling.doubled before [] underscore underscore
        simpa [underscored, words, rawWords, segments] using EqvGen.symm _ _ (.rel _ _ changed)
      · rw [List.append_nil, words_of_isWord accepted empty]
        simpa [underscored] using EqvGen.refl _
  | cons c rest ih =>
      cases separates : isSeparator c with
      | true =>
          rw [words_append_separator separates]
          -- Without a word before it the separator only doubles the underscore.
          by_cases empty : word = []
          · subst empty
            have changed := Respelling.doubled before (rest ++ ['_']) underscore separates
            have later := ih before accepted
            refine .trans _ _ _ (.symm _ _ (.rel _ _ ?_)) later
            simpa using changed
          · have changed :=
              Respelling.replaced (before ++ '_' :: word) (rest ++ ['_']) separates underscore
            have first : EqvGen Respelling (before ++ '_' :: (word ++ c :: rest) ++ ['_'])
                (before ++ '_' :: word ++ '_' :: rest ++ ['_']) := .rel _ _ (by simpa using changed)
            have later := ih (before ++ '_' :: word) isWord_nil
            rw [words_of_isWord accepted empty]
            exact .trans _ _ _ first (by simpa [underscored] using later)
      | false =>
          cases letter : c.isAlphanum with
          | true =>
              have grown : IsWord (word ++ [c]) := by
                simpa [IsWord, or_imp, forall_and, letter] using accepted
              simpa using ih before grown
          | false =>
              have changed :=
                Respelling.ignored (before ++ '_' :: word) (rest ++ ['_']) separates letter
              rw [words_append_ignored separates letter]
              refine .trans _ _ _ (.symm _ _ (.rel _ _ ?_)) (ih before accepted)
              simpa using changed

theorem respelled_iff : EqvGen Respelling raw respelled ↔ words raw = words respelled := by
  have normal (name : List Char) : EqvGen Respelling name (underscored (words name)) := by
    have underscore := isSeparator_underscore
    have between := respelled_underscored [] name isWord_nil
    refine .trans _ _ _ (.rel _ _ (.leading name underscore)) ?_
    exact .trans _ _ _ (.rel _ _ (.trailing _ underscore)) between
  constructor
  · exact words_eq_of_respelled
  · intro same
    have back := normal respelled
    rw [← same] at back
    exact .trans _ _ _ (normal raw) (.symm _ _ back)

/-- The canonical form holds the letters and digits of the raw name, in their order and up to case;
no pass and no round loses, adds or moves any. Apart from them only the breaks between words count:
names have the same words exactly if one can be respelled as the other, and then they have the same
canonical form. -/
theorem canonical_keeps_letters_and_words :
    (∀ raw, (canonical raw).map Char.toLower = (raw.filter Char.isAlphanum).map Char.toLower) ∧
    (∀ word, (capitalizeLeading word).map Char.toLower = word.map Char.toLower ∧
      (lowerTrailingAcronym word).map Char.toLower = word.map Char.toLower ∧
      (∀ afterDigit,
        (capitalizeAfterDigit afterDigit word).map Char.toLower = word.map Char.toLower) ∧
      (lowerInteriorAcronyms word).map Char.toLower = word.map Char.toLower ∧
      ∀ rounds, (settle rounds word).map Char.toLower = word.map Char.toLower) ∧
    (∀ raw respelled, EqvGen Respelling raw respelled ↔ words raw = words respelled) ∧
    ∀ raw respelled, EqvGen Respelling raw respelled → canonical raw = canonical respelled := by
  refine ⟨map_toLower_canonical, fun word => ?_, fun raw respelled => respelled_iff,
    fun raw respelled same => ?_⟩
  · rw [lowerTrailingAcronym_eq_lowerTail, lowerInteriorAcronyms_eq_lowerInterior]
    exact ⟨map_toLower_capitalizeLeading word, map_toLower_lowerTail word,
      fun afterDigit => map_toLower_capitalizeAfterDigit afterDigit word,
      map_toLower_lowerInterior false word, fun rounds => map_toLower_settle rounds word⟩
  · rw [canonical, canonical, joinWords, joinWords, words_eq_of_respelled same]

theorem canonical_of_respelled_hyphen :
    EqvGen Respelling "get value".toList "get_va-lue".toList ∧
      canonical "get value".toList = canonical "get_va-lue".toList := by
  have replaced : Respelling "get value".toList "get_value".toList :=
    .replaced "get".toList "value".toList rfl rfl
  have ignored : Respelling "get_value".toList "get_va-lue".toList :=
    .ignored "get_va".toList "lue".toList rfl rfl
  have same := EqvGen.trans _ _ _ (.rel _ _ replaced) (.rel _ _ ignored)
  exact ⟨same, canonical_keeps_letters_and_words.2.2.2 _ _ same⟩

end NativeInterop.Identifier
