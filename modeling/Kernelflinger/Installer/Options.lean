import Kernelflinger.CommandLine

/-
The option preparation of the installer's `efi_main`: `LoadOptions` narrowed into a buffer, its
trailing spaces and control characters cleared, the image name dropped up to the first space,
and the rest queued as the first command, or `DEFAULT_OPTIONS`.
-/

namespace Kernelflinger.Installer

open CommandLine

/-- `DEFAULT_OPTIONS`. -/
def defaultOptions : Str8 := lit8 "--batch installer.cmd"

/-- Where the option preparation of the installer's `efi_main` ends. -/
inductive OptionsOutcome where
  /-- The trim loop reads below index 0: `i` wrapped to `UINTN_MAX`. -/
  | outOfBounds
  /-- `skip_whitespace` dereferences the `NULL` `strchr` returned. -/
  | nullDereference
  /-- `store_command` is given this command. -/
  | queued (command : Str8)
  deriving DecidableEq, Repr

/-- The test of the trim loop, `options[i] <= ' '` on an unsigned `CHAR8`. -/
def snipped (c : UInt8) : Bool := c ≤ 0x20

/-- The trim loop from index `i`; none when it goes on below index 0. -/
def trimLoop (options : Str8) : Nat → Option Nat
  | 0 => if snipped (options.getD 0 0) then none else some 0
  | i + 1 => if snipped (options.getD (i + 1) 0) then trimLoop options i else some (i + 1)

/-- `strchr`: the string from the first `c` on, none for `NULL`. -/
def strchr (s : Str8) (c : UInt8) : Option Str8 :=
  match s with
  | [] => none
  | b :: rest => if b = c then some (b :: rest) else if b = 0 then none else strchr rest c

/-- `skip_whitespace`, not under src/: skip what `isSpace` accepts. -/
def skipWhitespace (isSpace : UInt8 → Bool) (s : Str8) : Str8 :=
  s.dropWhile fun c => c ≠ 0 && isSpace c

/-- The option preparation on the buffer `str_to_stra` filled. -/
def prepareOptions (isSpace : UInt8 → Bool) (options : Str8) : OptionsOutcome :=
  match trimLoop options (options.length - 1) with
  | none => .outOfBounds
  | some i =>
      let options := options.take (i + 1) ++ List.replicate (options.length - (i + 1)) 0
      match strchr options 0x20 with
      | none => .nullDereference
      | some options =>
          let options := skipWhitespace isSpace options
          .queued (if options.headD 0 ≠ 0 then options.takeWhile (· ≠ 0) else defaultOptions)

/-- The option preparation of the installer's `efi_main`. -/
def installerOptions (isSpace : UInt8 → Bool) (loadOptions : Str16) (unconverted : Str8) :
    OptionsOutcome :=
  prepareOptions isSpace ((strToStra (loadOptions ++ [0])).getD unconverted)

/-- The first command as the usage text means it. -/
def intendedCommand (isSpace : UInt8 → Bool) (text : Str8) : Str8 :=
  match text.dropWhile (· ≠ 0x20) with
  | [] => defaultOptions
  | _ :: after =>
      let command := (after.dropWhile isSpace).rdropWhile snipped
      if command = [] then defaultOptions else command

/-- From index `i` the loop stops at the last byte up to `i` that is above `' '`. -/
theorem trimLoop_eq (options : Str8) : ∀ i, i < options.length →
    trimLoop options i =
      if (options.take (i + 1)).rdropWhile snipped = [] then none
      else some (((options.take (i + 1)).rdropWhile snipped).length - 1)
  | 0, inside => by
      simp only [List.take_succ, List.take_zero, List.nil_append, List.getElem?_eq_getElem inside,
        Option.toList_some, List.rdropWhile_singleton, trimLoop, List.getD_eq_getElem?_getD,
        Option.getD_some]
      split <;> simp
  | i + 1, inside => by
      have before := trimLoop_eq options i (by omega)
      rw [← List.take_concat_get options (i + 1) inside, List.concat_eq_append]
      simp only [trimLoop, List.getD_eq_getElem?_getD, List.getElem?_eq_getElem inside,
        Option.getD_some]
      split
      · rename_i below
        rw [List.rdropWhile_concat_pos _ _ _ below, before]
      · rename_i above
        rw [List.rdropWhile_concat_neg _ _ _ above, if_neg (List.append_ne_nil_of_right_ne_nil _ (List.cons_ne_nil _ _))]
        simp only [List.length_append, List.length_take, List.length_singleton, Option.some.injEq]
        omega

/-- On a buffer that ends in its NUL the loop stops at the last byte above `' '`. -/
theorem trimLoop_text (text : Str8) :
    trimLoop (text ++ [0]) text.length =
      if text.rdropWhile snipped = [] then none else some ((text.rdropWhile snipped).length - 1) := by
  have nul : snipped 0 = true := by decide
  rw [trimLoop_eq _ _ (by simp), List.take_of_length_le (by simp),
    List.rdropWhile_concat_pos _ _ _ nul]

/-- `strchr` on a string that ends in a NUL finds `c` when the string holds it. -/
theorem strchr_of_noNul {c : UInt8} (nonzero : c ≠ 0) (rest : Str8) :
    ∀ {text : Str8}, 0 ∉ text →
      strchr (text ++ 0 :: rest) c = if c ∈ text then some (text.dropWhile (· ≠ c) ++ 0 :: rest) else none
  | [], _ => by simp [strchr, Ne.symm nonzero]
  | b :: text, clean => by
      have nonzeroB : b ≠ 0 := fun isNul => clean (isNul ▸ List.mem_cons_self _ _)
      rw [List.cons_append, strchr, strchr_of_noNul nonzero rest (fun nul => clean (List.mem_cons_of_mem _ nul))]
      by_cases found : b = c
      · subst found
        simp
      · simp [found, nonzeroB, Ne.symm found]

/-- `skip_whitespace` on a NUL-ended string skips its leading whitespace. -/
theorem skipWhitespace_of_noNul (isSpace : UInt8 → Bool) (rest : Str8) :
    ∀ {text : Str8}, 0 ∉ text →
      skipWhitespace isSpace (text ++ 0 :: rest) = text.dropWhile isSpace ++ 0 :: rest
  | [], _ => by simp [skipWhitespace]
  | b :: text, clean => by
      have nonzeroB : b ≠ 0 := fun isNul => clean (isNul ▸ List.mem_cons_self _ _)
      have later := skipWhitespace_of_noNul isSpace rest (fun nul => clean (List.mem_cons_of_mem _ nul))
      unfold skipWhitespace at later ⊢
      rw [List.cons_append, List.dropWhile_cons, List.dropWhile_cons]
      simp only [nonzeroB, ne_eq, not_false_eq_true, decide_True, Bool.true_and]
      split
      · exact later
      · rfl

theorem rdropWhile_append_of_all {α : Type} {p : α → Bool} (xs : List α) {ys : List α}
    (all : ∀ y ∈ ys, p y = true) : (xs ++ ys).rdropWhile p = xs.rdropWhile p := by
  simp only [List.rdropWhile, List.reverse_append]
  rw [List.dropWhile_append_of_pos (by simpa using all)]

theorem rdropWhile_append_rtakeWhile {α : Type} (p : α → Bool) (l : List α) :
    l.rdropWhile p ++ l.rtakeWhile p = l := by
  rw [List.rdropWhile, List.rtakeWhile, ← List.reverse_append, List.takeWhile_append_dropWhile,
    List.reverse_reverse]

theorem dropWhile_ne_of_mem {c : UInt8} : ∀ {l : Str8}, c ∈ l →
    ∃ after, l.dropWhile (· ≠ c) = c :: after ∧ ∃ before, l = before ++ c :: after
  | [], member => absurd member (List.not_mem_nil _)
  | b :: l, member => by
      by_cases found : b = c
      · subst found
        exact ⟨l, by simp, [], rfl⟩
      · obtain ⟨after, dropped, before, split⟩ :=
          dropWhile_ne_of_mem ((List.mem_cons.mp member).resolve_left (Ne.symm found))
        refine ⟨after, ?_, b :: before, by rw [split]; rfl⟩
        rw [List.dropWhile_cons_of_pos (by simpa using found), dropped]

section Spaces

variable {isSpace : UInt8 → Bool} (spaces : ∀ c, isSpace c = true → snipped c = true)

include spaces in
/-- After a space, what whitespace leaves is non-empty and ends above `' '`. -/
theorem command_trimmed {before after : Str8}
    (trimmed : (before ++ 0x20 :: after).rdropWhile snipped = before ++ 0x20 :: after) :
    after.dropWhile isSpace ≠ [] ∧
      (after.dropWhile isSpace).rdropWhile snipped = after.dropWhile isSpace := by
  have lastKept := List.rdropWhile_eq_self_iff.mp trimmed (by simp)
  have nonempty : after.dropWhile isSpace ≠ [] := by
    intro empty
    have all := List.dropWhile_eq_nil_iff.mp empty
    apply lastKept
    rw [List.getLast_append_of_ne_nil (List.cons_ne_nil _ _)]
    rcases List.mem_cons.mp (List.getLast_mem (List.cons_ne_nil 0x20 after)) with isBlank | inAfter
    · rw [isBlank]; decide
    · exact spaces _ (all _ inAfter)
  have decomposed : before ++ 0x20 :: after =
      (before ++ 0x20 :: after.takeWhile isSpace) ++ after.dropWhile isSpace := by
    simp
  refine ⟨nonempty, List.rdropWhile_eq_self_iff.mpr fun _ => ?_⟩
  rw [decomposed] at trimmed
  have lastPart :=
    List.rdropWhile_eq_self_iff.mp trimmed (List.append_ne_nil_of_right_ne_nil _ nonempty)
  rwa [List.getLast_append_of_ne_nil nonempty] at lastPart

include spaces in
/-- The preparation's three outcomes on a NUL-free string. -/
theorem prepareOptions_text (space : isSpace 0x20 = true) (text : Str8) (clean : 0 ∉ text) :
    prepareOptions isSpace (text ++ [0]) =
      if text.all snipped then .outOfBounds
      else if 0x20 ∉ text.rdropWhile snipped then .nullDereference
      else .queued (intendedCommand isSpace text) := by
  have length : (text ++ [0]).length - 1 = text.length := by simp
  unfold prepareOptions
  rw [length, trimLoop_text]
  by_cases allSnipped : text.all snipped
  · have empty : text.rdropWhile snipped = [] :=
      List.rdropWhile_eq_nil_iff.mpr (by simpa using allSnipped)
    simp [empty, allSnipped]
  have nonempty : text.rdropWhile snipped ≠ [] :=
    fun empty => allSnipped (by simpa using List.rdropWhile_eq_nil_iff.mp empty)
  obtain ⟨tail, textSplit⟩ : ∃ tail, text = text.rdropWhile snipped ++ tail ∧ ∀ c ∈ tail, snipped c :=
    ⟨_, (rdropWhile_append_rtakeWhile _ _).symm, fun _ => List.mem_rtakeWhile_imp⟩
  generalize keptDef : text.rdropWhile snipped = kept at nonempty textSplit
  have trimmed : kept.rdropWhile snipped = kept := keptDef ▸ List.rdropWhile_idempotent _ _
  obtain ⟨textSplit, tailSnipped⟩ := textSplit
  subst textSplit
  have keptClean : 0 ∉ kept := fun nul => clean (List.mem_append_left _ nul)
  have positive : 0 < kept.length := List.length_pos.mpr nonempty
  have taken : (kept ++ tail ++ [0]).take (kept.length - 1 + 1) = kept := by
    rw [Nat.sub_add_cancel positive, List.append_assoc, List.take_left]
  have zeros : (kept ++ tail ++ [0]).length - (kept.length - 1 + 1) = tail.length + 1 := by
    simp only [List.length_append, List.length_singleton]
    omega
  rw [if_neg nonempty, if_neg allSnipped]
  simp only
  rw [taken, zeros, List.replicate_succ, strchr_of_noNul (by decide) _ keptClean]
  by_cases spaced : 0x20 ∈ kept
  · obtain ⟨after, found, before, split⟩ := dropWhile_ne_of_mem spaced
    subst split
    obtain ⟨nonemptyCommand, trimmedCommand⟩ := command_trimmed spaces trimmed
    have afterClean : 0 ∉ 0x20 :: after := fun nul =>
      keptClean (List.mem_append_right _ nul)
    have commandClean : ∀ c ∈ after.dropWhile isSpace, c ≠ 0 := fun c member nul =>
      afterClean (nul ▸ List.mem_cons_of_mem _ ((List.dropWhile_sublist _).subset member))
    obtain ⟨first, rest, command⟩ := List.exists_cons_of_ne_nil nonemptyCommand
    have firstClean := commandClean first (command ▸ List.mem_cons_self _ _)
    have intended : intendedCommand isSpace (before ++ 0x20 :: after ++ tail) = after.dropWhile isSpace := by
      rw [intendedCommand, List.dropWhile_append, found]
      simp only [List.isEmpty_cons, Bool.false_eq_true, if_false, List.cons_append]
      rw [List.dropWhile_append,
        if_neg (show ¬(after.dropWhile isSpace).isEmpty = true by simpa using nonemptyCommand),
        rdropWhile_append_of_all _ tailSnipped, trimmedCommand, if_neg nonemptyCommand]
    rw [if_pos spaced, if_neg (not_not.mpr spaced), found]
    simp only
    have headed : (after.dropWhile isSpace ++ 0 :: List.replicate tail.length 0).headD 0 ≠ 0 := by
      rw [command]
      exact firstClean
    have taken : (after.dropWhile isSpace ++ 0 :: List.replicate tail.length 0).takeWhile (· ≠ 0) =
        after.dropWhile isSpace := by
      rw [List.takeWhile_append_of_pos (by simpa using commandClean)]
      simp
    rw [skipWhitespace_of_noNul _ _ afterClean, List.dropWhile_cons_of_pos space, intended,
      if_pos headed, taken]
  · simp [spaced]

end Spaces

theorem toUInt8_eq_zero {c : UInt16} (ascii : c ≤ 0x7F) (narrowed : c.toUInt8 = 0) : c = 0 := by
  have small : c.toNat ≤ 127 := ascii
  have zero : c.toNat % 256 = 0 := congrArg UInt8.toNat narrowed
  apply UInt16.toNat.inj
  show c.toNat = 0
  omega

/-- Every ASCII option string reads below, dereferences `NULL`, or is queued. -/
theorem installerOptions_outcome (isSpace : UInt8 → Bool) (space : isSpace 0x20 = true)
    (spaces : ∀ c, isSpace c = true → snipped c = true) (loadOptions : Str16)
    (ascii : ∀ c ∈ loadOptions, c ≤ 0x7F) (noNul : 0 ∉ loadOptions) (unconverted : Str8) :
    installerOptions isSpace loadOptions unconverted =
      if (loadOptions.map UInt16.toUInt8).all snipped then .outOfBounds
      else if 0x20 ∉ (loadOptions.map UInt16.toUInt8).rdropWhile snipped then .nullDereference
      else .queued (intendedCommand isSpace (loadOptions.map UInt16.toUInt8)) := by
  have narrowed : strToStra (loadOptions ++ [0]) = some (loadOptions.map UInt16.toUInt8 ++ [0]) := by
    rw [strToStra, if_pos (by simpa [List.all_eq_true] using ascii)]
    simp only [List.map_append, List.map_cons, List.map_nil]
    rfl
  have clean : 0 ∉ loadOptions.map UInt16.toUInt8 := fun member => by
    obtain ⟨c, inside, isZero⟩ := List.mem_map.mp member
    exact noNul (toUInt8_eq_zero (ascii c inside) isZero ▸ inside)
  rw [installerOptions, narrowed, Option.getD_some]
  exact prepareOptions_text spaces space _ clean

/-- The C library's `isspace`. -/
def cIsspace (c : UInt8) : Bool := c == 0x20 || (0x09 ≤ c && c ≤ 0x0D)

theorem cIsspace_snipped (c : UInt8) (blank : cIsspace c = true) : snipped c = true := by
  simp only [cIsspace, Bool.or_eq_true, beq_iff_eq, Bool.and_eq_true, decide_eq_true_eq] at blank
  simp only [snipped, decide_eq_true_eq]
  rcases blank with rfl | ⟨-, atMost⟩
  · decide
  · have small : c.toNat ≤ 13 := atMost
    show c.toNat ≤ 32
    omega

/-- The image name alone, and the empty string. -/
theorem installerOptions_bareName :
    (cIsspace 0x20 = true ∧ (∀ c, cIsspace c = true → snipped c = true) ∧
        (∀ c ∈ lit "installer.efi", c ≤ 0x7F) ∧ 0 ∉ lit "installer.efi") ∧
      installerOptions cIsspace (lit "installer.efi") [] = .nullDereference ∧
      installerOptions cIsspace [] [] = .outOfBounds := by
  refine ⟨⟨rfl, cIsspace_snipped, by decide, by decide⟩, ?_, ?_⟩
  · rw [installerOptions_outcome cIsspace rfl cIsspace_snipped _ (by decide) (by decide)]
    decide
  · rw [installerOptions_outcome cIsspace rfl cIsspace_snipped _ (by simp) (by simp)]
    decide

end Kernelflinger.Installer
