import Folio.Command.Invocation
import Folio.Proofs.Text.Blank
import Folio.Text.Layout

namespace Folio.Command

open Folio.Text

/-- A word and what is typed for it: the word between two quotes of a kind that it does not hold. -/
def Typed (word typed : String) : Prop :=
  ∃ q, isQuote q = true ∧ q ∉ word.toList ∧ typed = String.ofList (q :: (word.toList ++ [q]))

theorem exists_typed {w : String} (h : ¬ ('"' ∈ w.toList ∧ '\'' ∈ w.toList)) : ∃ t, Typed w t := by
  by_cases hdouble : '"' ∈ w.toList
  · exact ⟨_, '\'', rfl, fun hsingle => h ⟨hdouble, hsingle⟩, rfl⟩
  · exact ⟨_, '"', rfl, hdouble, rfl⟩

theorem exists_typedAll {ws : List String}
    (h : ∀ w ∈ ws, ¬ ('"' ∈ w.toList ∧ '\'' ∈ w.toList)) : ∃ ts, List.Forall₂ Typed ws ts := by
  induction ws with
  | nil => exact ⟨[], .nil⟩
  | cons w ws ih =>
    obtain ⟨t, ht⟩ := exists_typed (h w List.mem_cons_self)
    obtain ⟨ts, hts⟩ := ih fun v hv => h v (List.mem_cons_of_mem w hv)
    exact ⟨t :: ts, .cons ht hts⟩

section Tokens

variable {q : Char} {w rest : List Char}

theorem words_inside (hw : q ∉ w) (gathered : List Char) :
    words (some q) gathered (w ++ q :: rest) =
      finished (w.reverse ++ gathered) ++ words none [] rest := by
  induction w generalizing gathered with
  | nil => simp [words]
  | cons c cs ih =>
    rw [List.mem_cons, not_or] at hw
    simp [words, Ne.symm hw.1, ih hw.2]

theorem words_quoted (hq : isQuote q = true) (hw : q ∉ w) (hne : w ≠ []) :
    words none [] (q :: (w ++ q :: rest)) = w :: words none [] rest := by
  simp [words, hq, words_inside hw, finished, hne]

theorem words_space (rest : List Char) : words none [] (' ' :: rest) = words none [] rest := by
  simp [words, isQuote, finished]

end Tokens

theorem words_typed {w t : String} (h : Typed w t) (hne : w ≠ "") (rest : List Char) :
    words none [] (t.toList ++ rest) = w.toList :: words none [] rest := by
  obtain ⟨q, hq, hw, rfl⟩ := h
  have hchars : w.toList ≠ [] := fun he => hne (String.toList_inj.1 he)
  rw [String.toList_ofList, List.cons_append, List.append_assoc]
  exact words_quoted hq hw hchars

theorem tokenize_typed {ws ts : List String} (h : List.Forall₂ Typed ws ts)
    (hne : ∀ w ∈ ws, w ≠ "") : tokenize (joined " " ts) = ws := by
  have hwords : words none [] (joined " " ts).toList = ws.map String.toList := by
    induction h with
    | nil => rfl
    | @cons w t ws ts ht hts ih =>
      have hfirst := words_typed ht (hne w List.mem_cons_self)
      have hrest := ih fun v hv => hne v (List.mem_cons_of_mem w hv)
      cases hts with
      | nil =>
        have hlast := hfirst []
        rwa [List.append_nil] at hlast
      | cons ht' hts' =>
        rw [joined, String.toList_append, String.toList_append, List.append_assoc, hfirst]
        · exact congrArg (w.toList :: ·) ((words_space _).trans hrest)
        · exact nofun
  rw [tokenize, hwords, List.map_map]
  simp [Function.comp_def]

theorem not_isBlank_of_isQuote {c : Char} (h : isQuote c = true) : isBlank c = false := by
  simp only [isQuote, Bool.or_eq_true, beq_iff_eq] at h
  rcases h with rfl | rfl <;> rfl

theorem trimmed_typed {w t : String} (h : Typed w t) :
    Trimmed isBlank t.toList ∧ t.toList ≠ [] := by
  obtain ⟨q, hq, -, rfl⟩ := h
  have hquote := not_isBlank_of_isQuote hq
  rw [String.toList_ofList, ← List.cons_append]
  refine ⟨⟨?_, ?_⟩, List.append_ne_nil_of_right_ne_nil _ (List.cons_ne_nil q [])⟩
  · rintro _ ⟨⟩
    exact hquote
  · rw [List.getLast?_concat]
    rintro _ ⟨⟩
    exact hquote

theorem strip_typed {ws ts : List String} (h : List.Forall₂ Typed ws ts) :
    strip (joined " " ts) = joined " " ts := by
  have hends : Trimmed isBlank (joined " " ts).toList ∧
      (ts ≠ [] → (joined " " ts).toList ≠ []) := by
    induction h with
    | nil => exact ⟨⟨nofun, nofun⟩, fun hne => absurd rfl hne⟩
    | cons ht hts ih =>
      obtain ⟨hfirst, hne⟩ := trimmed_typed ht
      cases hts with
      | nil => exact ⟨hfirst, fun _ => hne⟩
      | cons ht' hts' =>
        obtain ⟨hrest, hrestne⟩ := ih
        rw [joined, String.toList_append, String.toList_append, List.append_assoc]
        · exact ⟨hfirst.append hrest hne (hrestne (List.cons_ne_nil _ _)), by simp [hne]⟩
        · exact nofun
  rw [strip, trim_eq_self hends.1, String.ofList_toList]

namespace Flags

theorem putIn_new {name : String} {value : FlagValue} {entries : List (String × FlagValue)}
    (h : name ∉ entries.map Prod.fst) : putIn name value entries = entries ++ [(name, value)] := by
  induction entries with
  | nil => rfl
  | cons e rest ih =>
    obtain ⟨k, v⟩ := e
    rw [List.map_cons, List.mem_cons, not_or] at h
    rw [putIn, if_neg (Ne.symm h.1), ih h.2, List.cons_append]

theorem foldl_put (es : List (String × FlagValue)) (f : Flags)
    (h : ((f.entries ++ es).map Prod.fst).Nodup) :
    (es.foldl (fun f (k, v) => f.put k v) f).entries = f.entries ++ es := by
  induction es generalizing f with
  | nil => simp
  | cons e es ih =>
    have hnew : e.1 ∉ f.entries.map Prod.fst := by
      rw [List.map_append, List.nodup_append] at h
      exact fun hmem => h.2.2 e.1 hmem e.1 (by simp) rfl
    have hput : (f.put e.1 e.2).entries = f.entries ++ [e] := putIn_new hnew
    rw [List.foldl_cons, ih _ (by simpa [hput] using h), hput, List.append_assoc]
    rfl

theorem ofList_entries (f : Flags) : ofList f.entries = f := by
  have h : (ofList f.entries).entries = f.entries := foldl_put f.entries {} f.distinct
  cases hf : ofList f.entries with
  | mk entries distinct =>
    rw [hf] at h
    cases f
    cases h
    rfl

end Flags

section SortWords

variable {args : List String} {flags : Flags} {w v : String} {rest : List String}

theorem sortWords_arg (hw : isFlag w = false) :
    sortWords args flags (w :: rest) = sortWords (args ++ [w]) flags rest := by
  cases rest <;> simp [sortWords, hw]

theorem sortWords_switch (hw : isFlag w = true) (hrest : ∀ v ∈ rest.head?, isFlag v = true) :
    sortWords args flags (w :: rest) =
      sortWords args (flags.put (flagName w) (.switch true)) rest := by
  cases rest with
  | nil => simp [sortWords, hw]
  | cons v rest => simp [sortWords, hw, hrest v rfl]

theorem sortWords_value (hw : isFlag w = true) (hv : isFlag v = false) :
    sortWords args flags (w :: v :: rest) =
      sortWords args (flags.put (flagName w) (.text v)) rest := by
  simp [sortWords, hw, hv]

theorem sortWords_args {as : List String} (h : ∀ a ∈ as, isFlag a = false) (args : List String) :
    sortWords args flags (as ++ rest) = sortWords (args ++ as) flags rest := by
  induction as generalizing args with
  | nil => simp
  | cons a as ih =>
    rw [List.cons_append, sortWords_arg (h a List.mem_cons_self),
      ih fun b hb => h b (List.mem_cons_of_mem a hb), List.append_assoc]
    rfl

end SortWords

def FlagValue.IsTypable : FlagValue → Prop
  | .text v => v ≠ "" ∧ isFlag v = false
  | .switch on => on = true

instance : DecidablePred FlagValue.IsTypable
  | .text v => inferInstanceAs (Decidable (v ≠ "" ∧ isFlag v = false))
  | .switch on => inferInstanceAs (Decidable (on = true))

def flagWords : String × FlagValue → List String
  | (name, .text v) => ["--" ++ name, v]
  | (name, .switch _) => ["--" ++ name]

@[simp] theorem isFlag_dashes (name : String) : isFlag ("--" ++ name) = true := by
  simp [isFlag, startsWith]

@[simp] theorem flagName_dashes (name : String) : flagName ("--" ++ name) = name := by
  simp [flagName]

theorem isFlag_head_flagWords (es : List (String × FlagValue)) :
    ∀ v ∈ (es.flatMap flagWords).head?, isFlag v = true := by
  cases es with
  | nil => simp
  | cons e es => rcases e with ⟨name, v | on⟩ <;> simp [flagWords]

theorem sortWords_flagWords {es : List (String × FlagValue)} (h : ∀ e ∈ es, e.2.IsTypable)
    (args : List String) (flags : Flags) :
    sortWords args flags (es.flatMap flagWords) =
      (args, es.foldl (fun f (k, v) => f.put k v) flags) := by
  induction es generalizing flags with
  | nil => rfl
  | cons e es ih =>
    have hes := ih fun d hd => h d (List.mem_cons_of_mem e hd)
    have he := h e List.mem_cons_self
    rw [List.flatMap_cons, List.foldl_cons]
    rcases e with ⟨name, v | on⟩
    · simp only [flagWords, List.cons_append, List.nil_append]
      rw [sortWords_value (isFlag_dashes name) he.2, flagName_dashes, hes]
    · obtain rfl : on = true := he
      simp only [flagWords, List.cons_append, List.nil_append]
      rw [sortWords_switch (isFlag_dashes name) (isFlag_head_flagWords es), flagName_dashes, hes]

namespace Invocation

def words (i : Invocation) : List String :=
  i.command :: (i.args ++ i.flags.entries.flatMap flagWords)

structure Typable (i : Invocation) : Prop where
  command : i.command ≠ ""
  lowered : lower i.command = i.command
  args : ∀ a ∈ i.args, a ≠ "" ∧ isFlag a = false
  flags : ∀ e ∈ i.flags.entries, e.2.IsTypable
  quotes : ∀ w ∈ i.words, ¬ ('"' ∈ w.toList ∧ '\'' ∈ w.toList)

theorem ofWords_words {i : Invocation} (h : i.Typable) : ofWords i.words = i := by
  have hsort : sortWords [] {} (i.args ++ i.flags.entries.flatMap flagWords) =
      (i.args, i.flags) := by
    rw [sortWords_args fun a ha => (h.args a ha).2, sortWords_flagWords h.flags]
    exact congrArg (i.args, ·) i.flags.ofList_entries
  simp only [ofWords, words, hsort, h.lowered]

theorem ne_empty_of_mem_words {i : Invocation} (h : i.Typable) : ∀ w ∈ i.words, w ≠ "" := by
  intro w hw
  simp only [words, List.mem_cons, List.mem_append, List.mem_flatMap] at hw
  obtain rfl | harg | ⟨⟨name, v | on⟩, he, hword⟩ := hw
  · exact h.command
  · exact (h.args w harg).1
  · simp only [flagWords, List.mem_cons, List.not_mem_nil, or_false] at hword
    obtain rfl | rfl := hword
    · simp [← String.toList_inj]
    · exact (h.flags _ he).1
  · obtain rfl := List.mem_singleton.1 hword
    simp [← String.toList_inj]

/-- Every invocation that can be typed is read back from any line that has its words in order, each
between quotes that it does not hold, with one space between them; and there is such a line. -/
theorem parse_typed {i : Invocation} (h : i.Typable) :
    (∃ ts, List.Forall₂ Typed i.words ts) ∧
      ∀ ts, List.Forall₂ Typed i.words ts → parse (joined " " ts) = i := by
  refine ⟨exists_typedAll h.quotes, ?_⟩
  intro ts hts
  rw [parse, strip_typed hts, tokenize_typed hts (ne_empty_of_mem_words h), ofWords_words h]

def spelled : Invocation where
  command := "it's"
  args := [" two  words ", "-", "\"-- "]
  flags := ⟨[("", .switch true), ("-to", .text "it's --all")], by decide⟩

theorem parse_typed_spelled : spelled.Typable ∧
    parse "\"it's\" ' two  words ' \"-\" '\"-- ' '--' \"---to\" \"it's --all\"" = spelled := by
  have h : spelled.Typable :=
    ⟨by decide, by decide +kernel, by decide, by decide, by decide⟩
  refine ⟨h, ?_⟩
  apply (parse_typed h).2
    ["\"it's\"", "' two  words '", "\"-\"", "'\"-- '", "'--'", "\"---to\"", "\"it's --all\""]
  have hsingle : ∀ w, '\'' ∉ w.toList → Typed w (String.ofList ('\'' :: (w.toList ++ ['\'']))) :=
    fun w hw => ⟨'\'', rfl, hw, rfl⟩
  have hdouble : ∀ w, '"' ∉ w.toList → Typed w (String.ofList ('"' :: (w.toList ++ ['"']))) :=
    fun w hw => ⟨'"', rfl, hw, rfl⟩
  exact .cons (hdouble _ (by decide)) (.cons (hsingle _ (by decide)) (.cons (hdouble _ (by decide))
    (.cons (hsingle _ (by decide)) (.cons (hsingle _ (by decide)) (.cons (hdouble _ (by decide))
      (.cons (hdouble _ (by decide)) .nil))))))

end Invocation

end Folio.Command
