import Calculator.Proofs.ExactWriting

/-!
# Grouping inserts commas and nothing else

The grouped text of a number is its plain text with commas in it. The digits of the whole part are
counted from the right: each comma stands in front of three digits, and between one and three are
left over for the first block. So there are as many commas as whole threes behind the first digit.
Infinite and undefined numbers have no digits and get no commas.

The blocks are found by the recursion on the reversed digits, three at a time. What is said of the
text is said of its commas, wherever they stand.
-/

namespace Calculator

open Number

/-! ## Blocks of digits -/

/-- Blocks of digits: one to three in the first one, three in each of the others. -/
structure Blocks (first : List Char) (rest : List (List Char)) : Prop where
  isDigit : ∀ block ∈ first :: rest, ∀ c ∈ block, c.isDigit = true
  first_pos : 1 ≤ first.length
  first_le : first.length ≤ 3
  length_eq : ∀ block ∈ rest, block.length = 3

/-- A comma in front of each block. -/
def behindCommas (rest : List (List Char)) : List Char :=
  (rest.map fun block => ',' :: block).flatten

/-- From the left of the reversed digits, blocks of three are taken while more than three remain. -/
theorem exists_groupReversed {rs : List Char} (h : rs ≠ []) :
    ∃ (blocks : List (List Char)) (last : List Char), rs = blocks.flatten ++ last ∧
      groupReversed rs = (blocks.map fun block => block ++ [',']).flatten ++ last ∧
      (∀ block ∈ blocks, block.length = 3) ∧ 1 ≤ last.length ∧ last.length ≤ 3 := by
  induction rs using groupReversed.induct with
  | case1 a b c d ds ih =>
    obtain ⟨blocks, last, hds, hgrouped, hlength, hlast⟩ := ih (List.cons_ne_nil d ds)
    refine ⟨[a, b, c] :: blocks, last, ?_, ?_, ?_, hlast⟩
    · rw [hds]
      rfl
    · rw [groupReversed, hgrouped]
      rfl
    · intro block hblock
      rcases List.mem_cons.mp hblock with rfl | hblock
      · rfl
      · exact hlength block hblock
  | case2 ds hshort =>
    have hle : ds.length ≤ 3 := by
      rcases ds with _ | ⟨a, _ | ⟨b, _ | ⟨c, _ | ⟨d, ds⟩⟩⟩⟩
      case cons.cons.cons.cons => exact absurd rfl (hshort a b c d ds)
      all_goals simp
    refine ⟨[], ds, rfl, ?_, nofun, List.length_pos_iff.mpr h, hle⟩
    rw [groupReversed]
    · rfl
    · exact hshort

/-- **Digits are grouped in blocks**, with a comma in front of each but the first. -/
theorem exists_blocks {ds : List Char} (hne : ds ≠ []) (h : ∀ c ∈ ds, c.isDigit = true) :
    ∃ first rest, Blocks first rest ∧ ds = first ++ rest.flatten ∧
      groupThousands ds = first ++ behindCommas rest := by
  have hne' : ds.reverse ≠ [] := by simpa using hne
  obtain ⟨blocks, last, hds, hgrouped, hlength, hpos, hle⟩ := exists_groupReversed hne'
  have heq : ds = last.reverse ++ (blocks.map List.reverse).reverse.flatten := by
    rw [← List.reverse_reverse ds, hds, List.reverse_append, List.reverse_flatten]
  refine ⟨last.reverse, (blocks.map List.reverse).reverse, ⟨?_, ?_, ?_, ?_⟩, heq, ?_⟩
  · intro block hblock c hc
    refine h c ?_
    rw [heq, ← List.flatten_cons]
    exact List.mem_flatten.mpr ⟨block, hblock, hc⟩
  · rwa [List.length_reverse]
  · rwa [List.length_reverse]
  · intro block hblock
    obtain ⟨b, hb, rfl⟩ := List.mem_map.mp (List.mem_reverse.mp hblock)
    rw [List.length_reverse, hlength b hb]
  · rw [groupThousands, hgrouped, List.reverse_append, List.reverse_flatten, behindCommas,
      List.map_reverse, List.map_map, List.map_map]
    congr 3
    refine List.map_congr_left fun block _ => ?_
    simp

section Blocks

variable {first : List Char} {rest : List (List Char)}

theorem comma_not_mem {ds : List Char} (h : ∀ c ∈ ds, c.isDigit = true) : ',' ∉ ds :=
  fun hc => absurd (h _ hc) (by decide)

theorem point_not_mem {ds : List Char} (h : ∀ c ∈ ds, c.isDigit = true) : '.' ∉ ds :=
  fun hc => absurd (h _ hc) (by decide)

theorem filter_of_not_mem {cs : List Char} (h : ',' ∉ cs) : cs.filter (· ≠ ',') = cs := by
  refine List.filter_eq_self.mpr fun c hc => ?_
  rw [decide_eq_true_eq]
  rintro rfl
  exact h hc

/-- Without the commas, the blocks are what they were. -/
theorem filter_behindCommas (h : ∀ block ∈ rest, ∀ c ∈ block, c.isDigit = true) :
    (behindCommas rest).filter (· ≠ ',') = rest.flatten := by
  induction rest with
  | nil => rfl
  | cons block rest ih =>
    have hrest := ih fun b hb => h b (List.mem_cons_of_mem _ hb)
    have hblock := comma_not_mem (h block List.mem_cons_self)
    rw [behindCommas] at hrest ⊢
    rw [List.map_cons, List.flatten_cons, List.filter_append, hrest,
      List.filter_cons_of_neg (by decide), filter_of_not_mem hblock, List.flatten_cons]

/-- There is a comma for each block but the first. -/
theorem count_behindCommas (h : ∀ block ∈ rest, ∀ c ∈ block, c.isDigit = true) :
    (behindCommas rest).count ',' = rest.length := by
  induction rest with
  | nil => rfl
  | cons block rest ih =>
    have hrest := ih fun b hb => h b (List.mem_cons_of_mem _ hb)
    have hblock := comma_not_mem (h block List.mem_cons_self)
    rw [behindCommas] at hrest ⊢
    rw [List.map_cons, List.flatten_cons, List.count_append, hrest, List.count_cons_self,
      List.count_eq_zero.mpr hblock, List.length_cons]
    omega

theorem length_flatten_of_blocks (h : ∀ block ∈ rest, block.length = 3) :
    rest.flatten.length = 3 * rest.length := by
  induction rest with
  | nil => rfl
  | cons block rest ih =>
    rw [List.flatten_cons, List.length_append, h block List.mem_cons_self,
      ih fun b hb => h b (List.mem_cons_of_mem _ hb), List.length_cons]
    omega

/-- The number of commas is the number of whole threes behind the first digit. -/
theorem Blocks.length_rest (h : Blocks first rest) :
    rest.length = ((first ++ rest.flatten).length - 1) / 3 := by
  have hpos := h.first_pos
  have hle := h.first_le
  rw [List.length_append, length_flatten_of_blocks h.length_eq]
  omega

end Blocks

/-! ## Where the commas stand -/

/-- What may follow a block: a comma, the point or the end. -/
def EndsBlock (more : List Char) : Prop := ∀ c ∈ more.head?, c = ',' ∨ c = '.'

/-- Every comma of a text stands before the point, and in front of exactly three digits up to the
next comma, the point or the end. -/
def CommasAtThousands (text : List Char) : Prop :=
  ∀ before after, text = before ++ ',' :: after →
    '.' ∉ before ∧ (after.takeWhile Char.isDigit).length = 3 ∧
      EndsBlock (after.dropWhile Char.isDigit)

/-- Digits end where a block does. -/
theorem span_block {block more : List Char} (h : ∀ c ∈ block, c.isDigit = true)
    (hmore : EndsBlock more) :
    (block ++ more).takeWhile Char.isDigit = block ∧
      (block ++ more).dropWhile Char.isDigit = more := by
  rw [List.takeWhile_append_of_pos h, List.dropWhile_append_of_pos h]
  cases more with
  | nil => simp
  | cons c more =>
    have hc : c.isDigit = false := by
      rcases hmore c rfl with rfl | rfl <;> decide
    simp [hc]

section Commas

variable {rest : List (List Char)} {tail : List Char}

theorem endsBlock_behindCommas (rest : List (List Char)) (htail : EndsBlock tail) :
    EndsBlock (behindCommas rest ++ tail) := by
  cases rest with
  | nil => exact htail
  | cons block rest =>
    intro c hc
    exact .inl (Option.some.inj hc).symm

/-- Blocks put their commas where they belong, behind anything without a comma or a point and in
front of anything without a comma. -/
theorem commasAtThousands_append {lead : List Char} (hcomma : ',' ∉ lead) (hpoint : '.' ∉ lead)
    (hdigit : ∀ block ∈ rest, ∀ c ∈ block, c.isDigit = true)
    (hlength : ∀ block ∈ rest, block.length = 3) (htail : EndsBlock tail) (hnot : ',' ∉ tail) :
    CommasAtThousands (lead ++ (behindCommas rest ++ tail)) := by
  induction rest generalizing lead with
  | nil =>
    intro before after heq
    have hmem : ',' ∈ lead ++ tail := by
      rw [show lead ++ tail = before ++ ',' :: after from heq]
      simp
    rcases List.mem_append.mp hmem with h | h
    · exact absurd h hcomma
    · exact absurd h hnot
  | cons block rest ih =>
    intro before after heq
    have hblock := hdigit block List.mem_cons_self
    have hcons : behindCommas (block :: rest) ++ tail =
        ',' :: (block ++ (behindCommas rest ++ tail)) := by
      simp [behindCommas]
    rw [hcons] at heq
    -- the first comma is the one of this block; the others come later
    rcases List.append_eq_append_iff.mp heq with ⟨later, rfl, hlater⟩ | ⟨earlier, rfl, hearlier⟩
    · cases later with
      | nil =>
        cases hlater
        obtain ⟨htake, hdrop⟩ := span_block hblock (endsBlock_behindCommas rest htail)
        rw [htake, hdrop, List.append_nil]
        exact ⟨hpoint, hlength block List.mem_cons_self, endsBlock_behindCommas _ htail⟩
      | cons c later =>
        rw [List.cons_append, List.cons.injEq] at hlater
        obtain ⟨rfl, hlater⟩ := hlater
        obtain ⟨hbefore, hafter⟩ := ih (comma_not_mem hblock) (point_not_mem hblock)
          (fun b hb => hdigit b (List.mem_cons_of_mem _ hb))
          (fun b hb => hlength b (List.mem_cons_of_mem _ hb)) later after hlater
        refine ⟨?_, hafter⟩
        intro h
        rcases List.mem_append.mp h with h | h
        · exact hpoint h
        · rcases List.mem_cons.mp h with h | h
          · exact absurd h (by decide)
          · exact hbefore h
    · cases earlier with
      | nil =>
        cases hearlier
        obtain ⟨htake, hdrop⟩ := span_block hblock (endsBlock_behindCommas rest htail)
        rw [htake, hdrop]
        rw [List.append_nil] at hpoint
        exact ⟨hpoint, hlength block List.mem_cons_self, endsBlock_behindCommas _ htail⟩
      | cons c earlier =>
        rw [List.cons_append, List.cons.injEq] at hearlier
        exact absurd (by simp [← hearlier.1]) hcomma

end Commas

/-! ## The grouped text -/

/-- The digits of a text behind its sign, up to the first character that is none. -/
def leadingDigits (text : List Char) : List Char :=
  (text.dropWhile (· = '-')).takeWhile Char.isDigit

/-- A text is another one with commas between its thousands. -/
structure GroupsThousands (plain grouped : List Char) : Prop where
  /-- Only commas are inserted. -/
  filter_eq : grouped.filter (· ≠ ',') = plain
  /-- Each comma has its place. -/
  commas : CommasAtThousands grouped
  /-- There is one for every three digits of the whole part, behind its first digit. -/
  count_eq : grouped.count ',' = ((leadingDigits plain).length - 1) / 3
  /-- The first block is not empty, if there are digits, and has at most three of them. -/
  first_pos : leadingDigits plain ≠ [] → leadingDigits grouped ≠ []
  first_le : (leadingDigits grouped).length ≤ 3

/-- A text without commas and digits is grouped as it is. -/
theorem groupsThousands_self {text : List Char} (hcomma : ',' ∉ text)
    (hdigits : leadingDigits text = []) : GroupsThousands text text where
  filter_eq := filter_of_not_mem hcomma
  commas before after heq := absurd (by rw [heq]; simp) hcomma
  count_eq := by rw [List.count_eq_zero.mpr hcomma, hdigits]; rfl
  first_pos := id
  first_le := by rw [hdigits]; exact Nat.zero_le 3

theorem leadingDigits_signed {sign digits more : List Char} (hsign : sign = [] ∨ sign = ['-'])
    (hne : digits ≠ []) (hdigits : ∀ c ∈ digits, c.isDigit = true) (hmore : EndsBlock more) :
    leadingDigits (sign ++ (digits ++ more)) = digits := by
  have hskip : (sign ++ (digits ++ more)).dropWhile (· = '-') = digits ++ more := by
    cases digits with
    | nil => exact absurd rfl hne
    | cons d ds =>
      have hd : d ≠ '-' := by
        rintro rfl
        exact absurd (hdigits _ List.mem_cons_self) (by decide)
      rcases hsign with rfl | rfl <;> simp [hd]
  rw [leadingDigits, hskip, (span_block hdigits hmore).1]

/-- Digits behind a sign and in front of a point are grouped. -/
theorem groupsThousands_signed {sign whole tail : List Char} (hsign : sign = [] ∨ sign = ['-'])
    (hne : whole ≠ []) (hwhole : ∀ c ∈ whole, c.isDigit = true) (htail : EndsBlock tail)
    (hnot : ',' ∉ tail) :
    GroupsThousands (sign ++ (whole ++ tail)) (sign ++ (groupThousands whole ++ tail)) := by
  obtain ⟨first, rest, hblocks, hflat, hgrouped⟩ := exists_blocks hne hwhole
  have hrest : ∀ block ∈ rest, ∀ c ∈ block, c.isDigit = true :=
    fun block hblock => hblocks.isDigit block (List.mem_cons_of_mem _ hblock)
  have hfirst := hblocks.isDigit first List.mem_cons_self
  have hfirst_ne : first ≠ [] := List.length_pos_iff.mp hblocks.first_pos
  have hcomma : ',' ∉ sign ++ first := by
    intro h
    rcases List.mem_append.mp h with h | h
    · rcases hsign with rfl | rfl <;> simp at h
    · exact comma_not_mem hfirst h
  have hpoint : '.' ∉ sign ++ first := by
    intro h
    rcases List.mem_append.mp h with h | h
    · rcases hsign with rfl | rfl <;> simp at h
    · exact point_not_mem hfirst h
  have hplain : leadingDigits (sign ++ (whole ++ tail)) = whole :=
    leadingDigits_signed hsign hne hwhole htail
  have hleading : leadingDigits (sign ++ (first ++ (behindCommas rest ++ tail))) = first :=
    leadingDigits_signed hsign hfirst_ne hfirst (endsBlock_behindCommas _ htail)
  rw [hgrouped, List.append_assoc]
  refine ⟨?_, ?_, ?_, ?_, ?_⟩
  · rw [← List.append_assoc, List.filter_append (sign ++ first),
      List.filter_append (behindCommas rest), filter_of_not_mem hcomma, filter_of_not_mem hnot,
      filter_behindCommas hrest, hflat]
    simp only [List.append_assoc]
  · rw [← List.append_assoc]
    exact commasAtThousands_append hcomma hpoint hrest hblocks.length_eq htail hnot
  · have hcount : (sign ++ first ++ (behindCommas rest ++ tail)).count ',' =
        (sign ++ first).count ',' + ((behindCommas rest).count ',' + tail.count ',') :=
      List.count_append.trans (congrArg _ List.count_append)
    rw [hplain, hflat, ← hblocks.length_rest, ← List.append_assoc, hcount,
      count_behindCommas hrest, List.count_eq_zero.mpr hcomma, List.count_eq_zero.mpr hnot]
    omega
  · rw [hleading]
    exact fun _ => hfirst_ne
  · rw [hleading]
    exact hblocks.first_le

namespace Binary64

variable {x : Binary64}

/-- The sign of a number as it is written. -/
def signChars (x : Binary64) : List Char := if x.negative then ['-'] else []

theorem signChars_cases (x : Binary64) : x.signChars = [] ∨ x.signChars = ['-'] := by
  unfold signChars
  split
  · exact .inr rfl
  · exact .inl rfl

/-- The text of a finite number in its parts: sign, whole part, point and places. -/
theorem fixedText_parts (h : x.isFinite = true) (places : Nat) :
    ∃ whole tail, whole ≠ [] ∧ (∀ c ∈ whole, c.isDigit = true) ∧ EndsBlock tail ∧ ',' ∉ tail ∧
      (x.fixedText places false).toList = x.signChars ++ (whole ++ tail) ∧
      (x.fixedText places true).toList = x.signChars ++ (groupThousands whole ++ tail) := by
  have hdigits := fun c hc => isDigit_of_mem_splitPlaces (c := c) places (x.scaledBy places) hc
  refine ⟨(splitPlaces places (x.scaledBy places)).1,
    if places = 0 then [] else '.' :: (splitPlaces places (x.scaledBy places)).2,
    splitPlaces_ne_nil _ _, fun c hc => hdigits c (.inl hc), ?_, ?_, ?_, ?_⟩
  · split
    · nofun
    · intro c hc
      exact .inr (Option.some.inj hc).symm
  · split
    · nofun
    · intro hc
      rcases List.mem_cons.mp hc with hc | hc
      · exact absurd hc (by decide)
      · exact comma_not_mem (fun c hc => hdigits c (.inr hc)) hc
  · rw [fixedText_of_isFinite h, unsignedText, signChars]
    by_cases hplaces : places = 0 <;> cases x.negative <;> simp [hplaces]
  · rw [fixedText_of_isFinite h, unsignedText, signChars]
    by_cases hplaces : places = 0 <;> cases x.negative <;> simp [hplaces]

/-- Infinite and undefined numbers are written in one way, without digits and commas. -/
theorem fixedText_of_not_isFinite (h : x.isFinite = false) (places : Nat) (grouped : Bool) :
    x.fixedText places grouped ∈ ["nan", "inf", "-inf"] := by
  unfold fixedText
  rw [h]
  cases x.isNaN <;> cases x.negative <;> simp

theorem fixedText_congr_of_not_isFinite (h : x.isFinite = false) (places : Nat)
    (grouped grouped' : Bool) : x.fixedText places grouped = x.fixedText places grouped' := by
  unfold fixedText
  rw [h]
  rfl

end Binary64

/-- **Grouping inserts commas between the thousands**, whatever the number and the places. -/
theorem formatNumber_groups (x : Binary64) (precision : Int) (h : 0 ≤ precision)
    (hlt : precision < 2 ^ 31) :
    ∃ plain grouped, formatNumber x precision false = .ok plain ∧
      formatNumber x precision true = .ok grouped ∧
      GroupsThousands plain.toList grouped.toList ∧
      (x.isFinite = true → leadingDigits plain.toList ≠ []) ∧
      (x.isFinite = false → grouped ∈ ["nan", "inf", "-inf"]) := by
  refine ⟨_, _, formatNumber_eq_ok x h hlt false, formatNumber_eq_ok x h hlt true, ?_, ?_, ?_⟩
  · cases hfinite : x.isFinite with
    | true =>
      obtain ⟨whole, tail, hne, hwhole, htail, hnot, hplain, hgrouped⟩ :=
        Binary64.fixedText_parts hfinite precision.toNat
      rw [hplain, hgrouped]
      exact groupsThousands_signed x.signChars_cases hne hwhole htail hnot
    | false =>
      rw [Binary64.fixedText_congr_of_not_isFinite hfinite _ true false]
      have hmem := Binary64.fixedText_of_not_isFinite hfinite precision.toNat false
      simp only [List.mem_cons, List.not_mem_nil, or_false] at hmem
      rcases hmem with heq | heq | heq
      all_goals
        rw [heq]
        exact groupsThousands_self (by decide) (by decide)
  · intro hfinite
    obtain ⟨whole, tail, hne, hwhole, htail, -, hplain, -⟩ :=
      Binary64.fixedText_parts hfinite precision.toNat
    rwa [hplain, leadingDigits_signed x.signChars_cases hne hwhole htail]
  · intro hfinite
    exact Binary64.fixedText_of_not_isFinite hfinite _ _

/-- Rounding carries into a third block here, and infinity has none. -/
theorem formatNumber_groups_carry :
    formatNumber ⟨0x412E847FFDF3B646⟩ 2 true = .ok "1,000,000.00" ∧
      GroupsThousands "1000000.00".toList "1,000,000.00".toList ∧
      formatNumber ⟨0xFFF0000000000000⟩ 0 true = .ok "-inf" ∧
      GroupsThousands "-inf".toList "-inf".toList := by
  have hplain : formatNumber ⟨0x412E847FFDF3B646⟩ 2 false = .ok "1000000.00" := by decide +kernel
  have hgrouped : formatNumber ⟨0x412E847FFDF3B646⟩ 2 true = .ok "1,000,000.00" := by
    decide +kernel
  have hinfinite : formatNumber ⟨0xFFF0000000000000⟩ 0 true = .ok "-inf" := by decide +kernel
  obtain ⟨plain, grouped, hok, hok', hgroups, -⟩ :=
    formatNumber_groups ⟨0x412E847FFDF3B646⟩ 2 (by decide) (by decide)
  obtain ⟨plain', grouped', hsame, hsame', hgroups', -⟩ :=
    formatNumber_groups ⟨0xFFF0000000000000⟩ 0 (by decide) (by decide)
  cases hplain.symm.trans hok
  cases hgrouped.symm.trans hok'
  cases hinfinite.symm.trans hsame'
  cases hsame
  exact ⟨hgrouped, hgroups, hinfinite, hgroups'⟩

end Calculator
