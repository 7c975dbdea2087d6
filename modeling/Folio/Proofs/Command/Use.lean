import Folio.Proofs.Command.Invocation
import Folio.Proofs.Command.Token
import Folio.Proofs.Lookup

namespace Folio.Command

open Folio.Text

def isArgument (ws : List String) : Nat → Bool
  | 0 => false
  | 1 => !ws[1]?.any isFlag
  | n + 2 => !ws[n + 2]?.any isFlag && !ws[n + 1]?.any isFlag

def valueBefore : List String → FlagValue
  | [] => .switch true
  | v :: _ => if isFlag v then .switch true else .text v

/-- The command, the arguments and the flags of an invocation by the words of its line. -/
structure Invocation.Uses (ws : List String) (i : Invocation) : Prop where
  command : i.command = (ws.head?.map lower).getD ""
  args : i.args = (ws.zipIdx.filter fun e => isArgument ws e.2).map Prod.fst
  names : ∀ name, (i.flags.get? name).isSome ↔ "--" ++ name ∈ ws.tail
  values : ∀ name front back, ws.tail = front ++ ("--" ++ name) :: back → "--" ++ name ∉ back →
    i.flags.get? name = some (valueBefore back)
  once : ∃ given, i.flags = .ofList given ∧ (i.args ++ given.flatMap flagWords).Perm ws.tail
  typable : ∀ name value, i.flags.get? name = some value → value.IsTypable

namespace Flags

theorem lookup_putIn (name k : String) (value : FlagValue) (entries : List (String × FlagValue)) :
    (putIn name value entries).lookup k = if k = name then some value else entries.lookup k := by
  induction entries with
  | nil => exact lookup_cons (name, value) [] k
  | cons e rest ih =>
    obtain ⟨l, w⟩ := e
    by_cases hl : l = name
    · rw [putIn, if_pos hl, lookup_cons, lookup_cons, hl]
      split <;> rfl
    · rw [putIn, if_neg hl, lookup_cons, lookup_cons, ih]
      by_cases hk : k = l
      · rw [if_pos hk, if_neg (hk ▸ hl), if_pos hk]
      · rw [if_neg hk, if_neg hk]

theorem get?_put (f : Flags) (name k : String) (value : FlagValue) :
    (f.put name value).get? k = if k = name then some value else f.get? k :=
  lookup_putIn name k value f.entries

theorem get?_foldl_put (es : List (String × FlagValue)) (f : Flags) (k : String) :
    (es.foldl (fun f (k, v) => f.put k v) f).get? k = (es.reverse.lookup k).or (f.get? k) := by
  induction es generalizing f with
  | nil => rfl
  | cons e es ih =>
    rw [List.foldl_cons, ih, get?_put, List.reverse_cons, List.lookup_append, Option.or_assoc,
      lookup_cons]
    split <;> rfl

theorem get?_ofList (es : List (String × FlagValue)) (k : String) :
    (ofList es).get? k = es.reverse.lookup k :=
  (get?_foldl_put es {} k).trans Option.or_none

end Flags

def given : List String → List (String × FlagValue)
  | [] => []
  | w :: ws => if isFlag w then (flagName w, valueBefore ws) :: given ws else given ws

def argumentsAfter (flag : Bool) : List String → List String
  | [] => []
  | w :: ws =>
    if isFlag w then argumentsAfter true ws
    else if flag then argumentsAfter false ws
    else w :: argumentsAfter false ws

section Words

variable {w : String} {ws : List String}

theorem dashes_flagName (h : isFlag w = true) : "--" ++ flagName w = w := by
  obtain ⟨rest, hrest⟩ := List.isPrefixOf_iff_prefix.1 h
  simp [← String.toList_inj, flagName, ← hrest]

theorem given_other (h : isFlag w = false) : given (w :: ws) = given ws := by
  simp [given, h]

theorem sortWords_eq (args : List String) (flags : Flags) (ws : List String) :
    sortWords args flags ws = (args ++ argumentsAfter false ws,
      (given ws).foldl (fun f (k, v) => f.put k v) flags) := by
  fun_induction sortWords args flags ws <;> simp_all [argumentsAfter, given, valueBefore]

theorem sortWords_perm (args : List String) (flags : Flags) (ws : List String) :
    ((sortWords args flags ws).1 ++ (given ws).flatMap flagWords).Perm (args ++ ws) := by
  fun_induction sortWords args flags ws with
  | case1 args flags => simp [given]
  | case2 args flags w hw => simp [given, hw, valueBefore, flagWords, dashes_flagName hw]
  | case3 args flags w hw => simp [given, hw]
  | case4 args flags w v rest hw hv ih =>
    have hgiven : (given (w :: v :: rest)).flatMap flagWords =
        w :: (given (v :: rest)).flatMap flagWords := by
      rw [given, if_pos hw, valueBefore, if_pos hv, List.flatMap_cons]
      simp [flagWords, dashes_flagName hw]
    rw [hgiven]
    exact List.perm_middle.trans ((ih.cons w).trans List.perm_middle.symm)
  | case5 args flags w v rest hw hv ih =>
    have hgiven : (given (w :: v :: rest)).flatMap flagWords =
        w :: v :: (given rest).flatMap flagWords := by
      rw [given, if_pos hw, valueBefore, if_neg hv, List.flatMap_cons,
        given_other (by simpa using hv)]
      simp [flagWords, dashes_flagName hw]
    rw [hgiven]
    exact List.perm_middle.trans ((List.perm_middle.trans (ih.cons v) |>.trans List.perm_middle.symm
      |>.cons w).trans List.perm_middle.symm)
  | case6 args flags w v rest hw ih =>
    rw [given_other (by simpa using hw)]
    simpa using ih

theorem isArgument_middle (first w : String) (mid back : List String) :
    isArgument (first :: (mid ++ w :: back)) (mid.length + 1) =
      (!isFlag w && !mid.getLast?.any isFlag) := by
  cases mid using List.reverseRec with
  | nil => simp [isArgument]
  | append_singleton mid p => simp [isArgument]

theorem argumentsAfter_eq (first : String) (mid back : List String) :
    argumentsAfter (mid.getLast?.any isFlag) back =
      ((back.zipIdx (mid.length + 1)).filter fun e =>
        isArgument (first :: (mid ++ back)) e.2).map Prod.fst := by
  induction back generalizing mid with
  | nil => rfl
  | cons w back ih =>
    have hrest := ih (mid ++ [w])
    rw [List.getLast?_concat, Option.any_some, List.append_assoc, List.length_append] at hrest
    rw [List.zipIdx_cons, List.filter_cons, isArgument_middle, argumentsAfter]
    cases hw : isFlag w <;> cases mid.getLast?.any isFlag <;> simp_all

theorem mem_keys_given : name ∈ (given ws).map Prod.fst ↔ "--" ++ name ∈ ws := by
  induction ws with
  | nil => simp [given]
  | cons w ws ih =>
    cases hw : isFlag w with
    | true =>
      have hname : name = flagName w ↔ "--" ++ name = w :=
        ⟨fun h => h ▸ dashes_flagName hw, fun h => h ▸ (flagName_dashes name).symm⟩
      rw [given, if_pos hw, List.map_cons, List.mem_cons, List.mem_cons, ih, hname]
    | false =>
      have hne : "--" ++ name ≠ w := fun h => by simp [← h] at hw
      rw [given_other hw, ih, List.mem_cons, or_iff_right hne]

theorem exists_given_append (front back : List String) :
    ∃ es, given (front ++ back) = es ++ given back := by
  induction front with
  | nil => exact ⟨[], rfl⟩
  | cons w front ih =>
    obtain ⟨es, hes⟩ := ih
    rw [List.cons_append, given, hes]
    split
    · exact ⟨_ :: es, rfl⟩
    · exact ⟨es, rfl⟩

theorem isTypable_of_mem_given (hws : ∀ w ∈ ws, w ≠ "") {e : String × FlagValue}
    (he : e ∈ given ws) : e.2.IsTypable := by
  induction ws with
  | nil => cases he
  | cons w ws ih =>
    have hrest := ih (List.forall_mem_cons.1 hws).2
    rw [given] at he
    split at he
    · obtain rfl | he := List.mem_cons.1 he
      · cases ws with
        | nil => rfl
        | cons v ws =>
          rw [valueBefore]
          split
          · rfl
          next hv => exact ⟨hws v (by simp), by simpa using hv⟩
      · exact hrest he
    · exact hrest he

end Words

namespace Invocation

theorem ofWords_eq (ws : List String) : ofWords ws =
    ⟨(ws.head?.map lower).getD "", argumentsAfter false ws.tail, .ofList (given ws.tail)⟩ := by
  cases ws with
  | nil => rfl
  | cons w ws =>
    rw [ofWords, sortWords_eq]
    rfl

theorem uses_ofWords {ws : List String} (hws : ∀ w ∈ ws, w ≠ "") : Uses ws (ofWords ws) := by
  have htail : ∀ w ∈ ws.tail, w ≠ "" := fun w hw => hws w (List.mem_of_mem_tail hw)
  rw [ofWords_eq]
  constructor
  case command => rfl
  case args =>
    cases ws with
    | nil => rfl
    | cons first ws => exact argumentsAfter_eq first [] ws
  case names =>
    intro name
    rw [Flags.get?_ofList, ← mem_keys_given, List.lookup_isSome_iff, List.mem_map]
    simp only [List.mem_reverse, beq_iff_eq, @eq_comm _ name]
  case values =>
    intro name front back hsplit hback
    obtain ⟨es, hes⟩ := exists_given_append front (("--" ++ name) :: back)
    have hnone : (given back).reverse.lookup name = none := by
      rw [lookup_eq_none_iff_notMem, List.map_reverse, List.mem_reverse]
      exact fun hname => hback (mem_keys_given.1 hname)
    rw [hsplit, Flags.get?_ofList, hes, given, if_pos (isFlag_dashes name), flagName_dashes,
      List.reverse_append, List.reverse_cons, List.lookup_append, List.lookup_append, hnone,
      lookup_cons, if_pos rfl]
    rfl
  case once =>
    have hperm := sortWords_perm [] {} ws.tail
    rw [sortWords_eq] at hperm
    exact ⟨given ws.tail, rfl, hperm⟩
  case typable =>
    intro name value hvalue
    rw [Flags.get?_ofList] at hvalue
    exact isTypable_of_mem_given htail (List.mem_reverse.1 (mem_of_lookup hvalue))

/-- Every line is read word by word: an argument is a word that is no flag and does not follow one,
and the last flag of a name decides its value. -/
theorem parse_uses (line : String) : Uses (tokenize (strip line)) (parse line) :=
  uses_ofWords fun _ => ne_empty_of_mem_tokenize

example : (parse "--x y --all z --all --to w v").args = ["y", "v"] ∧
    (parse "--x y --all z --all --to w v").flags.entries =
      [("all", .switch true), ("to", .text "w")] := by decide +kernel

end Invocation

end Folio.Command
