import TypedQuery.Proofs.Outcome
import TypedQuery.Query.Command

/-! # Reading the search command back

The arguments of a search command are one flat list without marks between its sections. Read from
left to right they give back the options block, whatever the names and values in it are: each
section is looked for only where it may stand, and what stands within one is counted. -/

namespace TypedQuery
set_option autoImplicit false

namespace Command

/-- What an options block says. The values to sort by and those of the window are any values. -/
structure Block where
  returnFields : List Value
  sort : Option (Value × Value)
  limit : Option (Value × Value)
  params : List (Value × Value)
  dialect : Value

/-- The entry of a table that is left out when there is nothing to say. -/
def entryOf (word : String) (said : Option Value) : List (Value × Value) :=
  said.toList.map fun v => (.text word, v)

/-- The options block as a table. -/
def Block.table (b : Block) : List (Value × Value) :=
  entryOf "PARAMS" (if b.params.isEmpty then none else some (.map b.params))
    ++ entryOf "RETURN" (some (.list b.returnFields))
    ++ entryOf "SORTBY" (b.sort.map fun s => .map [(.text "BY", s.1), (.text "DIRECTION", s.2)])
    ++ entryOf "LIMIT" (b.limit.map fun w => .map [(.text "from", w.1), (.text "size", w.2)])
    ++ entryOf "DIALECT" (some b.dialect)

/-! ## Writing -/

def countedWords (word : String) (items : List Value) : List Value :=
  [.text word, .int items.length] ++ items

def twoWords (word : String) : Option (Value × Value) → List Value
  | none => []
  | some (a, b) => [.text word, a, b]

def pairWords (pairs : List (Value × Value)) : List Value := pairs.flatMap fun e => [e.1, e.2]

def paramWords (params : List (Value × Value)) : List Value :=
  if params.isEmpty then [] else countedWords "PARAMS" (pairWords params)

/-- The options block as it stands behind the query. -/
def Block.words (b : Block) : List Value :=
  countedWords "RETURN" b.returnFields ++ (twoWords "SORTBY" b.sort ++ (twoWords "LIMIT" b.limit
    ++ (paramWords b.params ++ [.text "DIALECT", b.dialect])))

theorem lookup_entryOf (word key : String) (said : Option Value) (rest : List (Value × Value)) :
    Value.lookup? (entryOf word said ++ rest) key
      = if word = key then said.or (Value.lookup? rest key) else Value.lookup? rest key := by
  by_cases same : word = key <;> cases said <;> simp [entryOf, Value.lookup?, same]

@[simp] theorem lookup_nil (key : String) : Value.lookup? [] key = none := rfl

theorem length_pairWords (pairs : List (Value × Value)) :
    (pairWords pairs).length = pairs.length * 2 := by
  induction pairs with
  | nil => rfl
  | cons e pairs ih =>
    rw [pairWords, List.flatMap_cons, ← pairWords, List.length_append, ih]
    simp
    omega

variable {index query : Value} {b : Block}

theorem lookup_table : Value.lookup? b.table "RETURN" = some (.list b.returnFields)
    ∧ Value.lookup? b.table "SORTBY"
      = b.sort.map (fun s => .map [(.text "BY", s.1), (.text "DIRECTION", s.2)])
    ∧ Value.lookup? b.table "LIMIT"
      = b.limit.map (fun w => .map [(.text "from", w.1), (.text "size", w.2)])
    ∧ Value.lookup? b.table "PARAMS"
      = (if b.params.isEmpty then none else some (.map b.params))
    ∧ Value.lookup? b.table "DIALECT" = some b.dialect := by
  have last : ∀ key, Value.lookup? (entryOf "DIALECT" (some b.dialect)) key
      = if "DIALECT" = key then some b.dialect else none := by
    intro key
    simpa using lookup_entryOf "DIALECT" key (some b.dialect) []
  simp [Block.table, List.append_assoc, lookup_entryOf, last]

theorem arguments_table : arguments index query b.table
    = .ok (.text "FT.SEARCH" :: index :: query :: b.words) := by
  obtain ⟨columns, sort, limit, params, dialect⟩ := lookup_table (b := b)
  have sortWords : sortArguments b.table = .ok (twoWords "SORTBY" b.sort) := by
    rw [sortArguments, sort]
    cases b.sort <;> rfl
  have limitWords : limitArguments b.table = .ok (twoWords "LIMIT" b.limit) := by
    rw [limitArguments, limit]
    cases b.limit <;> rfl
  have paramWords : paramArguments b.table = .ok (paramWords b.params) := by
    rw [paramArguments, params, Command.paramWords]
    cases hp : b.params with
    | nil => rfl
    | cons e rest =>
      rw [countedWords, length_pairWords]
      rfl
  rw [arguments, returnArguments, columns, sortWords, limitWords, paramWords, dialectArguments,
    dialect]
  simp [Block.words, countedWords, Value.members]

/-! ## Reading -/

/-- The items that a count announces, with what follows them. -/
def readCounted (word : String) : List Value → Option (List Value × List Value)
  | .text s :: .int n :: rest =>
    if s = word ∧ 0 ≤ n ∧ n ≤ rest.length then some (rest.take n.toNat, rest.drop n.toNat)
    else none
  | _ => none

/-- Two values, if their word stands before them, with what follows. -/
def readTwo (word : String) : List Value → Option (Option (Value × Value) × List Value)
  | .text s :: a :: b :: rest =>
    if s = word then some (some (a, b), rest) else some (none, .text s :: a :: b :: rest)
  | args => some (none, args)

def readPairs : List Value → Option (List (Value × Value))
  | [] => some []
  | [_] => none
  | name :: value :: rest => (readPairs rest).map ((name, value) :: ·)

/-- The parameters, if there are any, with what follows. -/
def readParams (args : List Value) : Option (List (Value × Value) × List Value) :=
  match readCounted "PARAMS" args with
  | none => some ([], args)
  | some (items, rest) => do
    let params ← readPairs items
    if params.isEmpty then none else some (params, rest)

def readDialect : List Value → Option Value
  | [.text s, dialect] => if s = "DIALECT" then some dialect else none
  | _ => none

def readBlock (args : List Value) : Option Block := do
  let (returnFields, args) ← readCounted "RETURN" args
  let (sort, args) ← readTwo "SORTBY" args
  let (limit, args) ← readTwo "LIMIT" args
  let (params, args) ← readParams args
  let dialect ← readDialect args
  return ⟨returnFields, sort, limit, params, dialect⟩

/-- The index, the query and the options block of a search command, read from left to right. -/
def read : List Value → Option (Value × Value × Block)
  | .text s :: index :: query :: args =>
    if s = "FT.SEARCH" then (readBlock args).map (index, query, ·) else none
  | _ => none

/-! ## One section -/

variable {word : String} {args rest items : List Value}

theorem readCounted_eq_some :
    readCounted word args = some (items, rest) ↔ args = countedWords word items ++ rest := by
  constructor
  · intro h
    unfold readCounted at h
    split at h
    · rename_i s n tail
      split at h
      · rename_i announced
        obtain ⟨rfl, low, high⟩ := announced
        cases h
        have length : ((tail.take n.toNat).length : Int) = n := by
          rw [List.length_take]
          omega
        rw [countedWords, length]
        simp
      · cases h
    · cases h
  · rintro rfl
    have within : (items.length : Int) ≤ (items ++ rest).length := by
      rw [List.length_append]
      omega
    change (if word = word ∧ 0 ≤ (items.length : Int) ∧ (items.length : Int) ≤ (items ++ rest).length
      then some ((items ++ rest).take items.length, (items ++ rest).drop items.length) else none) = _
    rw [if_pos ⟨rfl, by omega, within⟩, List.take_left, List.drop_left]

theorem readPairs_eq_some {pairs : List (Value × Value)} :
    readPairs items = some pairs ↔ items = pairWords pairs := by
  constructor
  · intro h
    induction items using readPairs.induct generalizing pairs with
    | case1 =>
      cases h
      rfl
    | case2 => cases h
    | case3 name value rest ih =>
      obtain ⟨tail, ht, rfl⟩ := Option.map_eq_some_iff.1 h
      rw [ih ht]
      rfl
  · rintro rfl
    induction pairs with
    | nil => rfl
    | cons e pairs ih =>
      change (readPairs (pairWords pairs)).map _ = _
      rw [ih]
      rfl

theorem readDialect_eq_some {dialect : Value} :
    readDialect args = some dialect ↔ args = [.text "DIALECT", dialect] := by
  constructor
  · intro h
    unfold readDialect at h
    split at h
    · split at h
      · rename_i same
        cases h
        rw [same]
      · cases h
    · cases h
  · rintro rfl
    rfl

/-- No section of this word comes next. -/
def Lacks (word : String) (args : List Value) : Prop := args.head? ≠ some (.text word)

theorem lacks_twoWords {other : String} {said : Option (Value × Value)} (ne : other ≠ word)
    (h : Lacks word rest) : Lacks word (twoWords other said ++ rest) := by
  cases said with
  | none => exact h
  | some s => simpa [Lacks, twoWords] using ne

theorem lacks_paramWords {params : List (Value × Value)} (ne : "PARAMS" ≠ word)
    (h : Lacks word rest) : Lacks word (paramWords params ++ rest) := by
  cases params with
  | nil => exact h
  | cons e params => simpa [Lacks, paramWords, countedWords] using ne

theorem eq_of_readTwo {said : Option (Value × Value)} (h : readTwo word args = some (said, rest)) :
    args = twoWords word said ++ rest := by
  unfold readTwo at h
  split at h
  · split at h
    · rename_i same
      cases h
      rw [same]
      rfl
    · cases h
      rfl
  · cases h
    rfl

theorem readTwo_words {said : Option (Value × Value)} (h : Lacks word rest) :
    readTwo word (twoWords word said ++ rest) = some (said, rest) := by
  cases said with
  | some s => simp [twoWords, readTwo]
  | none =>
    change readTwo word rest = some (none, rest)
    unfold readTwo
    split
    · exact if_neg fun same => h (by rw [same]; rfl)
    · rfl

theorem eq_of_readParams {params : List (Value × Value)}
    (h : readParams args = some (params, rest)) : args = paramWords params ++ rest := by
  unfold readParams at h
  split at h
  · cases h
    rfl
  · rename_i items tail counted
    obtain ⟨pairs, hp, h⟩ := Option.bind_eq_some_iff.1 h
    split at h
    · cases h
    · rename_i some_pair
      cases h
      rw [readCounted_eq_some.1 counted, readPairs_eq_some.1 hp, paramWords, if_neg some_pair]

theorem readParams_words {params : List (Value × Value)} (h : Lacks "PARAMS" rest) :
    readParams (paramWords params ++ rest) = some (params, rest) := by
  cases params with
  | nil =>
    have none_counted : readCounted "PARAMS" rest = none := by
      rw [Option.eq_none_iff_forall_ne_some]
      rintro ⟨items, tail⟩ counted
      exact h (by rw [readCounted_eq_some.1 counted]; rfl)
    change readParams rest = _
    rw [readParams, none_counted]
  | cons e params =>
    have counted : readCounted "PARAMS" (countedWords "PARAMS" (pairWords (e :: params)) ++ rest)
        = some (pairWords (e :: params), rest) := readCounted_eq_some.2 rfl
    have pairs : readPairs (pairWords (e :: params)) = some (e :: params) :=
      readPairs_eq_some.2 rfl
    change readParams (countedWords "PARAMS" (pairWords (e :: params)) ++ rest) = _
    simp only [readParams, counted, pairs]
    rfl

/-! ## All sections -/

theorem eq_of_readBlock (h : readBlock args = some b) : args = b.words := by
  obtain ⟨⟨columns, afterColumns⟩, hc, h⟩ := Option.bind_eq_some_iff.1 h
  obtain ⟨⟨sort, afterSort⟩, hs, h⟩ := Option.bind_eq_some_iff.1 h
  obtain ⟨⟨limit, afterLimit⟩, hl, h⟩ := Option.bind_eq_some_iff.1 h
  obtain ⟨⟨params, afterParams⟩, hp, h⟩ := Option.bind_eq_some_iff.1 h
  obtain ⟨dialect, hd, h⟩ := Option.bind_eq_some_iff.1 h
  cases h
  rw [Block.words, ← readDialect_eq_some.1 hd, ← eq_of_readParams hp, ← eq_of_readTwo hl,
    ← eq_of_readTwo hs, ← readCounted_eq_some.1 hc]

theorem readBlock_words : readBlock b.words = some b := by
  obtain ⟨columns, sort, limit, params, dialect⟩ := b
  -- each section is followed by a word of a later one only
  have dialectOnly (word : String) (ne : "DIALECT" ≠ word) :
      Lacks word [.text "DIALECT", dialect] := by simpa [Lacks] using ne
  have paramsOnly (word : String) (ne : "PARAMS" ≠ word) (ne' : "DIALECT" ≠ word) :
      Lacks word (paramWords params ++ [.text "DIALECT", dialect]) :=
    lacks_paramWords ne (dialectOnly word ne')
  have limitNext : Lacks "SORTBY"
      (twoWords "LIMIT" limit ++ (paramWords params ++ [.text "DIALECT", dialect])) :=
    lacks_twoWords (by decide) (paramsOnly "SORTBY" (by decide) (by decide))
  have columnsRead : readCounted "RETURN" (Block.words ⟨columns, sort, limit, params, dialect⟩)
      = some (columns, _) := readCounted_eq_some.2 rfl
  have sortRead : readTwo "SORTBY" (twoWords "SORTBY" sort ++ _) = some (sort, _) :=
    readTwo_words limitNext
  have limitRead : readTwo "LIMIT" (twoWords "LIMIT" limit ++ _) = some (limit, _) :=
    readTwo_words (paramsOnly "LIMIT" (by decide) (by decide))
  have paramsRead : readParams (paramWords params ++ _) = some (params, _) :=
    readParams_words (dialectOnly "PARAMS" (by decide))
  have dialectRead : readDialect [.text "DIALECT", dialect] = some dialect :=
    readDialect_eq_some.2 rfl
  rw [readBlock, columnsRead]
  simp only [Option.bind_eq_bind, Option.bind_some, sortRead, limitRead, paramsRead, dialectRead]
  rfl

theorem read_eq_some :
    read args = some (index, query, b)
      ↔ args = .text "FT.SEARCH" :: index :: query :: b.words := by
  constructor
  · intro h
    unfold read at h
    split at h
    · split at h
      · rename_i same
        obtain ⟨b', hb, h⟩ := Option.map_eq_some_iff.1 h
        cases h
        rw [same, eq_of_readBlock hb]
      · cases h
    · cases h
  · rintro rfl
    rw [read, if_pos rfl, readBlock_words]
    rfl

end Command

/-! ## Plans -/

namespace Plan

/-- What the options of a plan say. -/
def block (p : Plan) : Command.Block where
  returnFields := p.returnFields
  sort := p.sort.map fun s => (s.column, s.direction)
  limit := p.limit.map fun w => (w.offset, w.size)
  params := p.params
  dialect := p.dialect

theorem table_block (p : Plan) : p.block.table = p.options := by
  obtain ⟨index, query, params, columns, sort, limit, dialect, scores⟩ := p
  cases params <;> cases sort <;> cases limit <;> rfl

/-- Plans whose options say the same have the same options, part by part. -/
theorem eq_of_block {p q : Plan} (h : p.block = q.block) :
    p.params = q.params ∧ p.returnFields = q.returnFields ∧ p.sort = q.sort ∧ p.limit = q.limit
      ∧ p.dialect = q.dialect := by
  obtain ⟨columns, sort, limit, params, dialect⟩ := Command.Block.mk.inj h
  have sortParts : Function.Injective fun s : SortClause => (s.column, s.direction) := by
    rintro ⟨column, direction⟩ ⟨column', direction'⟩ same
    cases same
    rfl
  have limitParts : Function.Injective fun w : Window => (w.offset, w.size) := by
    rintro ⟨offset, size⟩ ⟨offset', size'⟩ same
    cases same
    rfl
  exact ⟨params, columns, Option.map_injective sortParts sort,
    Option.map_injective limitParts limit, dialect⟩

/-- The arguments of a command are read back, from left to right and to their end, as the index,
the query and the options block, and no other arguments are. So plans with the same arguments
agree in all that their options say, whatever stands for a column, a direction or a window. -/
theorem arguments_readable :
    (∀ (index query : Value) (b : Command.Block), ∃ args,
      Command.arguments index query b.table = .ok args
        ∧ ∀ args', Command.read args' = some (index, query, b) ↔ args' = args)
    ∧ ∀ p : Plan, ∃ args, p.arguments = .ok args
      ∧ Command.read args = some (p.indexName, .text p.query, p.block)
      ∧ p.block.table = p.options
      ∧ ∀ q : Plan, q.arguments = .ok args → q.indexName = p.indexName ∧ q.query = p.query
        ∧ q.params = p.params ∧ q.returnFields = p.returnFields ∧ q.sort = p.sort
        ∧ q.limit = p.limit ∧ q.dialect = p.dialect := by
  refine ⟨?_, ?_⟩
  · intro index query b
    exact ⟨_, Command.arguments_table, fun args' => Command.read_eq_some⟩
  · intro p
    have written (q : Plan) : q.arguments
        = .ok (.text "FT.SEARCH" :: q.indexName :: .text q.query :: q.block.words) := by
      rw [arguments, ← table_block, Command.arguments_table]
    refine ⟨_, written p, Command.read_eq_some.2 rfl, table_block p, ?_⟩
    intro q same
    rw [written q] at same
    have back := Command.read_eq_some.2 (Except.ok.inj same).symm
    rw [Command.read_eq_some.2 rfl] at back
    obtain ⟨index, rest⟩ := Prod.mk.inj (Option.some.inj back)
    obtain ⟨query, block⟩ := Prod.mk.inj rest
    exact ⟨index.symm, (Value.text.inj query).symm, eq_of_block block.symm⟩

-- Names that are keywords are told from the keywords by where they stand.
example : Command.read [.text "FT.SEARCH", .text "PARAMS", .text "*", .text "RETURN", .int 2,
    .text "LIMIT", .text "DIALECT", .text "PARAMS", .int 2, .text "SORTBY", .null,
    .text "DIALECT", .int 2]
    = some (.text "PARAMS", .text "*", ⟨[.text "LIMIT", .text "DIALECT"], none, none,
      [(.text "SORTBY", .null)], .int 2⟩) := by rfl

end Plan

end TypedQuery
