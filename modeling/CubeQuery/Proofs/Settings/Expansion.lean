import CubeQuery.Proofs.Steps
import CubeQuery.Proofs.Text.Span
import CubeQuery.Settings.Expansion

/-! Variables in a text are replaced from left to right, each once, and what stands for them is not looked into. A
reference is a name in braces or the longest name behind a dollar. Braces that are never closed are taken as closed
at the end of the text. -/

namespace CubeQuery.Expansion

open Steps Text

/-! ### References -/

/-- A text as its references and the other characters, where braces have to be closed. -/
inductive Reads : List Char → List Piece → Prop where
  | nil : Reads [] []
  | braced {name rest : List Char} {read : List Piece} (endless : '\x7d' ∉ name) (later : Reads rest read) :
      Reads ('$' :: '\x7b' :: (name ++ '\x7d' :: rest)) (.reference name :: read)
  | named {name rest : List Char} {read : List Piece} (nonempty : name ≠ [])
      (inside : ∀ c ∈ name, isNameChar c = true) (longest : ∀ c, rest.head? = some c → isNameChar c = false)
      (later : Reads rest read) : Reads ('$' :: (name ++ rest)) (.reference name :: read)
  | lone {rest : List Char} {read : List Piece} (nameless : ∀ c, rest.head? = some c → isNameChar c = false)
      (unbraced : ∀ name after, rest ≠ '\x7b' :: (name ++ '\x7d' :: after)) (later : Reads rest read) :
      Reads ('$' :: rest) (.char '$' :: read)
  | char {c : Char} {rest : List Char} {read : List Piece} (plain : c ≠ '$') (later : Reads rest read) :
      Reads (c :: rest) (.char c :: read)

/-- Behind every dollar with a brace the text has a closing brace. -/
def Terminated (text : List Char) : Prop :=
  ∀ before after, text = before ++ '$' :: '\x7b' :: after → '\x7d' ∈ after

/-- The pieces that a text is cut into, closed braces or not. -/
inductive Cut : List Char → List Piece → Prop where
  | nil : Cut [] []
  | braced {name rest : List Char} {read : List Piece} (endless : '\x7d' ∉ name) (later : Cut rest read) :
      Cut ('$' :: '\x7b' :: (name ++ '\x7d' :: rest)) (.reference name :: read)
  | unclosed {name : List Char} (endless : '\x7d' ∉ name) : Cut ('$' :: '\x7b' :: name) [.reference name]
  | named {name rest : List Char} {read : List Piece} (nonempty : name ≠ [])
      (inside : ∀ c ∈ name, isNameChar c = true) (longest : ∀ c, rest.head? = some c → isNameChar c = false)
      (later : Cut rest read) : Cut ('$' :: (name ++ rest)) (.reference name :: read)
  | lone {rest : List Char} {read : List Piece} (nameless : ∀ c, rest.head? = some c → isNameChar c = false)
      (braceless : rest.head? ≠ some '\x7b') (later : Cut rest read) : Cut ('$' :: rest) (.char '$' :: read)
  | char {c : Char} {rest : List Char} {read : List Piece} (plain : c ≠ '$') (later : Cut rest read) :
      Cut (c :: rest) (.char c :: read)

theorem forall_isInBraces {name : List Char} : (∀ c ∈ name, isInBraces c = true) ↔ '\x7d' ∉ name := by
  unfold isInBraces
  simp only [bne_iff_ne]
  exact ⟨fun inside listed => inside _ listed rfl, fun endless c listed same => endless (same ▸ listed)⟩

theorem cut_pieces (text : List Char) : Cut text (pieces text) := by
  fun_induction pieces text with
  | case1 => exact .nil
  | case2 rest ih =>
    obtain ⟨split, inside, stops⟩ := span_iff.mp (⟨rfl, rfl⟩ : rest.takeWhile isInBraces = _ ∧ _)
    generalize rest.takeWhile isInBraces = name, rest.dropWhile isInBraces = behind at *
    subst split
    have endless := forall_isInBraces.mp inside
    -- What is behind the name begins with the closing brace, if there is one.
    cases behind with
    | nil =>
      rw [List.append_nil, List.drop_nil, pieces]
      exact .unclosed endless
    | cons c after =>
      obtain rfl : c = '\x7d' := bne_eq_false_iff_eq.mp (stops c rfl)
      exact .braced endless ih
  | case3 rest braceless none ih =>
    exact .lone (takeWhile_eq_nil.mp none) (fun head => braceless _ (List.head?_eq_some_iff.mp head).choose_spec) ih
  | case4 rest braceless named ih =>
    obtain ⟨split, inside, stops⟩ := span_iff.mp (⟨rfl, rfl⟩ : rest.takeWhile isNameChar = _ ∧ _)
    generalize rest.takeWhile isNameChar = name, rest.dropWhile isNameChar = behind at *
    subst split
    exact .named named inside stops ih
  | case5 c rest _ plain ih => exact .char plain ih

theorem isNameChar_brace : isNameChar '\x7b' = false := by decide +kernel

theorem isNameChar_dollar : isNameChar '$' = false := by decide +kernel

theorem isNameChar_closing : isNameChar '\x7d' = false := by decide +kernel

/-- A name that is not empty begins with no brace. -/
theorem head?_ne_brace {name : List Char} (nonempty : name ≠ []) (inside : ∀ c ∈ name, isNameChar c = true)
    (rest : List Char) : (name ++ rest).head? ≠ some '\x7b' := by
  obtain ⟨c, others, rfl⟩ := List.exists_cons_of_ne_nil nonempty
  intro first
  obtain rfl := Option.some.inj first
  exact absurd (inside _ List.mem_cons_self) (by rw [isNameChar_brace]; decide)

theorem pieces_dollar {rest : List Char} (braceless : rest.head? ≠ some '\x7b') : pieces ('$' :: rest) =
    if rest.takeWhile isNameChar = [] then .char '$' :: pieces rest
    else .reference (rest.takeWhile isNameChar) :: pieces (rest.dropWhile isNameChar) :=
  pieces.eq_3 rest fun _ same => braceless (congrArg List.head? same)

theorem Cut.pieces_eq {text : List Char} {read : List Piece} (cut : Cut text read) : pieces text = read := by
  induction cut with
  | nil => rw [pieces]
  | @braced name rest read endless _ ih =>
    have stops : ∀ c, ('\x7d' :: rest).head? = some c → isInBraces c = false :=
      fun c first => Option.some.inj first ▸ rfl
    obtain ⟨taken, dropped⟩ := span_iff.mpr ⟨rfl, forall_isInBraces.mpr endless, stops⟩
    rw [pieces, taken, dropped]
    exact congrArg _ ih
  | unclosed endless =>
    have inside := forall_isInBraces.mpr endless
    rw [pieces, List.takeWhile_eq_self_iff.mpr inside, List.dropWhile_eq_nil_iff.mpr inside, List.drop_nil, pieces]
  | @named name rest _ nonempty inside longest _ ih =>
    obtain ⟨taken, dropped⟩ := span_iff.mpr ⟨rfl, inside, longest⟩
    rw [pieces_dollar (head?_ne_brace nonempty inside rest), taken, dropped, if_neg nonempty, ih]
  | lone nameless braceless _ ih => rw [pieces_dollar braceless, if_pos (takeWhile_eq_nil.mpr nameless), ih]
  | char plain _ ih => rw [pieces.eq_4 _ _ (fun _ dollar _ => plain dollar) plain, ih]

/-! ### Closed braces -/

theorem terminated_nil : Terminated [] := fun before after split => by simp at split

theorem Terminated.tail {c : Char} {rest : List Char} (terminated : Terminated (c :: rest)) : Terminated rest :=
  fun before after split => terminated (c :: before) after (congrArg (c :: ·) split)

theorem Terminated.behind {front rest : List Char} (terminated : Terminated (front ++ rest)) : Terminated rest := by
  induction front with
  | nil => exact terminated
  | cons c front ih => exact ih terminated.tail

theorem Terminated.cons {c : Char} {rest : List Char} (terminated : Terminated rest)
    (apart : c = '$' → rest.head? ≠ some '\x7b') : Terminated (c :: rest) := by
  intro before after split
  cases before with
  | nil =>
    obtain ⟨rfl, rfl⟩ := List.cons.inj split
    exact absurd rfl (apart rfl)
  | cons other before => exact terminated before after (List.tail_eq_of_cons_eq split)

/-- A closing brace closes whatever is open in front of it. -/
theorem Terminated.close {rest : List Char} (terminated : Terminated rest) (front : List Char) :
    Terminated (front ++ '\x7d' :: rest) := by
  intro before after split
  rcases List.append_eq_append_iff.mp split with ⟨between, -, rest_eq⟩ | ⟨between, -, after_eq⟩
  · cases between with
    | nil => exact absurd (List.head_eq_of_cons_eq rest_eq) (by decide)
    | cons c between => exact terminated between after (List.tail_eq_of_cons_eq rest_eq)
  · match between with
    | [] => exact absurd (List.head_eq_of_cons_eq after_eq) (by decide)
    | [_] => exact absurd (List.head_eq_of_cons_eq (List.tail_eq_of_cons_eq after_eq)) (by decide)
    | _ :: _ :: between =>
      rw [List.tail_eq_of_cons_eq (List.tail_eq_of_cons_eq after_eq)]
      exact List.mem_append_right between List.mem_cons_self

theorem terminated_concat (text : List Char) : Terminated (text ++ ['\x7d']) := terminated_nil.close text

/-- A name opens no brace. -/
theorem Terminated.named {name rest : List Char} (terminated : Terminated rest) (nonempty : name ≠ [])
    (inside : ∀ c ∈ name, isNameChar c = true) : Terminated ('$' :: (name ++ rest)) := by
  refine Terminated.cons ?_ fun _ => head?_ne_brace nonempty inside rest
  clear nonempty
  induction name with
  | nil => exact terminated
  | cons c name ih =>
    obtain ⟨first, others⟩ := List.forall_mem_cons.mp inside
    refine (ih others).cons fun dollar => ?_
    rw [dollar, isNameChar_dollar] at first
    cases first

variable {text : List Char} {read : List Piece}

theorem Cut.reads (cut : Cut text read) (terminated : Terminated text) : Reads text read := by
  induction cut with
  | nil => exact .nil
  | braced endless _ ih => exact .braced endless (ih terminated.tail.tail.behind.tail)
  | unclosed endless => exact absurd (terminated [] _ rfl) endless
  | named nonempty inside longest _ ih => exact .named nonempty inside longest (ih terminated.tail.behind)
  | lone nameless braceless _ ih =>
    exact .lone nameless (fun name after same => braceless (congrArg List.head? same)) (ih terminated.tail)
  | char plain _ ih => exact .char plain (ih terminated.tail)

theorem Reads.cut (reads : Reads text read) (terminated : Terminated text) : Cut text read := by
  induction reads with
  | nil => exact .nil
  | braced endless _ ih => exact .braced endless (ih terminated.tail.tail.behind.tail)
  | named nonempty inside longest _ ih => exact .named nonempty inside longest (ih terminated.tail.behind)
  | lone nameless unbraced _ ih =>
    refine .lone nameless (fun first => ?_) (ih terminated.tail)
    obtain ⟨after, rfl⟩ := List.head?_eq_some_iff.mp first
    obtain ⟨name, behind, rfl⟩ := List.append_of_mem (terminated [] after rfl)
    exact unbraced name behind rfl
  | char plain _ ih => exact .char plain (ih terminated.tail)

theorem reads_iff (terminated : Terminated text) : Reads text read ↔ pieces text = read := by
  constructor
  · exact fun reads => (reads.cut terminated).pieces_eq
  · rintro rfl
    exact (cut_pieces text).reads terminated

theorem head?_concat {rest : List Char} {c : Char} (first : (rest ++ ['\x7d']).head? = some c) :
    rest.head? = some c ∨ c = '\x7d' := by
  cases rest with
  | nil => exact .inr (Option.some.inj first).symm
  | cons other rest => exact .inl first

theorem Cut.concat (cut : Cut text read) (unterminated : ¬Terminated text) : Cut (text ++ ['\x7d']) read := by
  have nameless_concat {rest : List Char} (nameless : ∀ c, rest.head? = some c → isNameChar c = false) (c : Char)
      (first : (rest ++ ['\x7d']).head? = some c) : isNameChar c = false := by
    rcases head?_concat first with first | rfl
    · exact nameless c first
    · exact isNameChar_closing
  induction cut with
  | nil => exact absurd terminated_nil unterminated
  | @braced name rest read endless _ ih =>
    have later := ih fun terminated => unterminated (terminated.close ('$' :: '\x7b' :: name))
    have same : '$' :: '\x7b' :: (name ++ '\x7d' :: rest) ++ ['\x7d'] =
        '$' :: '\x7b' :: (name ++ '\x7d' :: (rest ++ ['\x7d'])) := by simp
    exact same ▸ .braced endless later
  | unclosed endless => exact .braced endless .nil
  | named nonempty inside longest _ ih =>
    have later := ih fun terminated => unterminated (terminated.named nonempty inside)
    rw [List.cons_append, List.append_assoc]
    exact .named nonempty inside (nameless_concat longest) later
  | lone nameless braceless _ ih =>
    have later := ih fun terminated => unterminated (terminated.cons fun _ => braceless)
    refine .lone (nameless_concat nameless) (fun first => ?_) later
    rcases head?_concat first with first | same
    · exact braceless first
    · exact absurd same (by decide)
  | char plain _ ih =>
    exact .char plain (ih fun terminated => unterminated (terminated.cons fun dollar => absurd dollar plain))

/-! ### Values -/

variable {valueOf : String → Option String}

/-- What stands for a piece: the value of a reference, and any other character itself. -/
inductive Replaces (valueOf : String → Option String) : Piece → List Char → Prop where
  | char (c : Char) : Replaces valueOf (.char c) [c]
  | reference {name : List Char} {value : String} (found : valueOf (String.ofList name) = some value) :
      Replaces valueOf (.reference name) value.toList

theorem value_of_found {name : List Char} {value : String} (found : valueOf (String.ofList name) = some value) :
    (Piece.reference name).value valueOf = .ok value.toList := by
  simp only [Piece.value, found]

theorem value_of_missing {name : List Char} (missing : valueOf (String.ofList name) = none) :
    (Piece.reference name).value valueOf = .error (.missingVariable (String.ofList name)) := by
  simp only [Piece.value, missing]

theorem value_eq_ok {piece : Piece} {value : List Char} :
    piece.value valueOf = .ok value ↔ Replaces valueOf piece value := by
  constructor
  · intro told
    cases piece with
    | char c =>
      obtain rfl := Except.ok.inj told
      exact .char c
    | reference name =>
      cases found : valueOf (String.ofList name) with
      | none =>
        rw [value_of_missing found] at told
        cases told
      | some value =>
        obtain rfl := Except.ok.inj ((value_of_found found).symm.trans told)
        exact .reference found
  · intro replaces
    cases replaces with
    | char c => rfl
    | reference found => exact value_of_found found

theorem value_eq_error {piece : Piece} {error : SettingsError} :
    piece.value valueOf = .error error ↔ ∃ name, piece = .reference name ∧ valueOf (String.ofList name) = none ∧
      error = .missingVariable (String.ofList name) := by
  constructor
  · intro failed
    cases piece with
    | char c => cases failed
    | reference name =>
      cases found : valueOf (String.ofList name) with
      | none => exact ⟨name, rfl, found, Except.error.inj (failed.symm.trans (value_of_missing found))⟩
      | some value =>
        rw [value_of_found found] at failed
        cases failed
  · rintro ⟨name, rfl, missing, rfl⟩
    exact value_of_missing missing

theorem forall_exists_value {read : List Piece} : (∀ piece ∈ read, ∃ value, piece.value valueOf = .ok value) ↔
    ∀ name, .reference name ∈ read → (valueOf (String.ofList name)).isSome = true := by
  constructor
  · intro each name listed
    obtain ⟨value, told⟩ := each _ listed
    cases value_eq_ok.mp told with
    | reference found => exact Option.isSome_of_eq_some found
  · intro found piece listed
    cases piece with
    | char c => exact ⟨_, rfl⟩
    | reference name =>
      obtain ⟨value, value_eq⟩ := Option.isSome_iff_exists.mp (found name listed)
      exact ⟨_, value_of_found value_eq⟩

theorem expand_eq_ok {text result : String} : expand valueOf text = .ok result ↔
    ∃ values, List.Forall₂ (Replaces valueOf) (pieces text.toList) values ∧
      result = String.ofList values.flatten := by
  unfold expand
  rw [bind_eq_ok]
  simp only [mapM_eq_ok, value_eq_ok, pure_eq_ok, Except.ok.injEq, @eq_comm String result]

/-- The first missing variable is the error. -/
theorem expand_eq_error {text : String} {error : SettingsError} : expand valueOf text = .error error ↔
    ∃ before name after, pieces text.toList = before ++ .reference name :: after ∧
      (∀ earlier, .reference earlier ∈ before → (valueOf (String.ofList earlier)).isSome = true) ∧
      valueOf (String.ofList name) = none ∧ error = .missingVariable (String.ofList name) := by
  unfold expand
  simp only [bind_eq_error, mapM_eq_error, value_eq_error, forall_exists_value, pure_eq_ok]
  constructor
  · rintro (⟨before, _, after, split, found, name, rfl, missing, rfl⟩ | ⟨_, -, done⟩)
    · exact ⟨before, name, after, split, found, missing, rfl⟩
    · cases done
  · rintro ⟨before, name, after, split, found, missing, rfl⟩
    exact .inl ⟨before, _, after, split, found, name, rfl, missing, rfl⟩

/-- Where every brace behind a dollar is closed, a text is read in one way only, as references and other characters.
The result is what stands for them, one behind the other, and the error is the first reference without a value. A
text with an open brace is expanded like the one with a closing brace at its end. -/
theorem references_expanded_once (valueOf : String → Option String) (text : String) :
    (Terminated text.toList → ∃ read, Reads text.toList read ∧ (∀ other, Reads text.toList other → other = read) ∧
        (∀ result, expand valueOf text = .ok result ↔
          ∃ values, List.Forall₂ (Replaces valueOf) read values ∧ result = String.ofList values.flatten) ∧
        ∀ error, expand valueOf text = .error error ↔ ∃ before name after,
          read = before ++ .reference name :: after ∧
          (∀ earlier, .reference earlier ∈ before → (valueOf (String.ofList earlier)).isSome = true) ∧
          valueOf (String.ofList name) = none ∧ error = .missingVariable (String.ofList name)) ∧
      (¬Terminated text.toList →
        Terminated (text ++ "\x7d").toList ∧ expand valueOf text = expand valueOf (text ++ "\x7d")) := by
  constructor
  · intro terminated
    exact ⟨pieces text.toList, (reads_iff terminated).mpr rfl,
      fun other reads => ((reads_iff terminated).mp reads).symm, fun result => expand_eq_ok,
      fun error => expand_eq_error⟩
  · intro unterminated
    have closed_eq : (text ++ "\x7d").toList = text.toList ++ ['\x7d'] := String.toList_append
    refine ⟨closed_eq ▸ terminated_concat text.toList, ?_⟩
    unfold expand
    rw [closed_eq, ((cut_pieces text.toList).concat unterminated).pieces_eq]

/-- The values of two variables, one of which looks like a reference to the other. -/
def shopNames : String → Option String
  | "SHOP" => some "$TOWN"
  | "TOWN" => some "Lyon"
  | _ => none

/-- A dollar in front of another and a dollar in a value stay as they are. -/
theorem shopNames_expanded : Terminated "$$TOWN, $SHOP, $\x7bTOWN\x7d".toList ∧
    ∃ read values, Reads "$$TOWN, $SHOP, $\x7bTOWN\x7d".toList read ∧
      List.Forall₂ (Replaces shopNames) read values ∧ "$Lyon, $TOWN, Lyon" = String.ofList values.flatten := by
  have terminated : Terminated "$$TOWN, $SHOP, $\x7bTOWN\x7d".toList :=
    terminated_concat "$$TOWN, $SHOP, $\x7bTOWN".toList
  obtain ⟨read, reads, -, results, -⟩ := (references_expanded_once shopNames _).1 terminated
  have expanded : expand shopNames "$$TOWN, $SHOP, $\x7bTOWN\x7d" = .ok "$Lyon, $TOWN, Lyon" := by
    decide +kernel
  obtain ⟨values, replaced, result_eq⟩ := (results _).mp expanded
  exact ⟨terminated, read, values, reads, replaced, result_eq⟩

end CubeQuery.Expansion
