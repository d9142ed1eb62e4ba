import Forecast.Lib.Json
import Forecast.Marg.StagingDispatch

/-!
# Raw pages on disk

A fetched page is kept on disk until it is staged: its payload is written as JSON, a chunk of rows
at a time, hashed and compressed, and the hash goes to the row of the page. A resumed sync reads
the file, checks the hash and stages what it parsed.

The file system paths, the hash and the compression are Node's and are parameters.
-/

open JsonText

namespace Forecast.RawPages

variable {ν : Type}

/-- A payload: an object of the language whose members have JSON values. -/
structure Payload (ν : Type) where
  members : List (CodeUnits × Json ν)
  isValue : IsValue (.object members)

/-- What the store takes from `crypto`, `path` and `zlib`. -/
structure Node where
  sha256 : List UInt8 → String
  join : List String → String
  dirname : String → String
  /-- What the chunks of a stream are compressed to. -/
  gzip : List (List UInt8) → List UInt8
  gunzip : List UInt8 → Option (List UInt8)

structure Node.Correct (node : Node) : Prop where
  sha256_ne (bytes : List UInt8) : node.sha256 bytes ≠ ""
  gunzip_gzip (chunks : List (List UInt8)) : node.gunzip (node.gzip chunks) = some chunks.flatten

/-! ### The chunks of a page -/

section Encoder

variable (N : Numerals ν)

def rowsPerChunk : ℕ := 1000

/-- The rows from the `j`-th on; `acc` holds what is not yielded yet. -/
def rowChunks : List Char → ℕ → List (Json ν) → List (List Char)
  | acc, _, [] => if acc.length > 0 then [acc] else []
  | acc, j, row :: rows =>
    let acc := (if j > 0 then acc ++ [','] else acc) ++ stringify N row
    if (j + 1) % rowsPerChunk = 0 then acc :: rowChunks [] (j + 1) rows
    else rowChunks acc (j + 1) rows

def valueChunks : Json ν → List (List Char)
  | .array rows =>
    if rows.length = 0 then [['[', ']']] else ['['] :: rowChunks N [] 0 rows ++ [[']']]
  | value => [stringify N value]

/-- The members from the `i`-th on. -/
def memberChunks : ℕ → List (CodeUnits × Json ν) → List (List Char)
  | _, [] => []
  | i, (key, value) :: members =>
    (if i > 0 then [[',']] else []) ++ (quote key ++ [':']) :: valueChunks N value ++
      memberChunks (i + 1) members

def encodeChunks (members : List (CodeUnits × Json ν)) : List (List UInt8) :=
  (['{'] :: memberChunks N 0 members ++ [['}']]).map utf8

end Encoder

/-! ### The store -/

inductive StorageError where
  | invalidPath (message : String)
  /-- An error of the file system that is not translated. -/
  | system (code : String)
  | fatal (message code : String)
  | retryable (message code : String)
  /-- What `gunzipSync` or `JSON.parse` throws. -/
  | unreadable
deriving DecidableEq

/-- The code is empty when the error has none. -/
def translateStorageError (code op relPath : String) : StorageError :=
  let code := code.toUpper
  let shown := if code = "" then "UNKNOWN" else code
  let baseMsg := s!"Marg raw-page {op} failed ({shown}) at {relPath}"
  if code = "EROFS" then .fatal baseMsg "STORAGE_READONLY"
  else if code = "ENOENT" ∧ op = "load" then
    .fatal s!"{baseMsg} — raw page file missing; cannot resume without refetch" "STORAGE_MISSING"
  else if code ∈ ["ENOSPC", "EACCES", "EPERM", "EISDIR", "ENOTDIR", "EMFILE", "EBUSY", "ENOENT"] then
    .retryable baseMsg s!"STORAGE_{code}"
  else .retryable baseMsg "STORAGE_UNKNOWN"

structure MargRawPageSavePayload (ν : Type) where
  tenantId : String
  configId : String
  syncLogId : String
  apiType : ApiType
  requestIndex : ℕ
  parsedPayload : Payload ν

structure MargRawPagePayloadDescriptor where
  storagePath : String
  payloadHash : String
  decryptedSize : ℕ
deriving DecidableEq

structure MargRawPageStorage where
  rootDir : String
  ensuredDirs : List String := []
  files : String → Option (List UInt8) := fun _ => none

/-- The codes of the file system's errors in one save, where it fails; a failed write leaves
something or nothing in the file. -/
structure Faults where
  mkdir : Option String := none
  write : Option (String × Option (List UInt8)) := none

def isPathChar (c : Char) : Bool := c.isAlphanum ∨ c ∈ ['.', '_', '-']

def isSafe (s : String) : Bool := s ≠ "" ∧ s.toList.all isPathChar

/-- The directory above is a safe name. -/
example : isSafe ".." = true := by decide +kernel

def safe (s label : String) : Except StorageError String :=
  if isSafe s then .ok s else .error (.invalidPath s!"Invalid {label} for raw-page path: {s}")

def apiText : ApiType → String
  | .accounting => "1"
  | .inventory => "2"

namespace MargRawPageStorage

variable (node : Node) (N : Numerals ν) (storage : MargRawPageStorage)

def buildRelativePath (payload : MargRawPageSavePayload ν) : Except StorageError String := do
  let tenantId ← safe payload.tenantId "tenantId"
  let configId ← safe payload.configId "configId"
  let syncLogId ← safe payload.syncLogId "syncLogId"
  let apiType := apiText payload.apiType
  let requestIndex := toString payload.requestIndex
  pure (node.join [tenantId, configId, syncLogId, s!"api{apiType}-req{requestIndex}.json.gz"])

/-- `path.join(this.rootDir, storagePath)`. -/
def absPath (storagePath : String) : String := node.join [storage.rootDir, storagePath]

def put (path : String) (bytes : Option (List UInt8)) : MargRawPageStorage :=
  { storage with files := Function.update storage.files path bytes }

def ensureDir (faults : Faults) (dir : String) : Except StorageError MargRawPageStorage :=
  if dir ∈ storage.ensuredDirs then .ok storage
  else
    match faults.mkdir with
    | some code => .error (.system code)
    | none => .ok { storage with ensuredDirs := dir :: storage.ensuredDirs }

def save (faults : Faults) (payload : MargRawPageSavePayload ν) :
    Except StorageError MargRawPagePayloadDescriptor × MargRawPageStorage :=
  match buildRelativePath node payload with
  | .error e => (.error e, storage)
  | .ok relPath =>
    let absPath := storage.absPath node relPath
    match storage.ensureDir faults (node.dirname absPath) with
    | .error e => (.error e, storage)
    | .ok ensured =>
      let chunks := encodeChunks N payload.parsedPayload.members
      match faults.write with
      | some (code, left) =>
        (.error (translateStorageError code "save" relPath), ensured.put absPath left)
      | none =>
        (.ok { storagePath := relPath
               payloadHash := node.sha256 chunks.flatten
               decryptedSize := (chunks.map List.length).sum },
          ensured.put absPath (some (node.gzip chunks)))

def readFile (fault : Option String) (storagePath : String) : Except StorageError (List UInt8) :=
  match fault with
  | some code => .error (translateStorageError code "load" storagePath)
  | none =>
    match storage.files (storage.absPath node storagePath) with
    | some bytes => .ok bytes
    | none => .error (translateStorageError "ENOENT" "load" storagePath)

/-- An empty hash stands for one that is not given. -/
def load (fault : Option String) (storagePath payloadHash : String) :
    Except StorageError (Json ν) := do
  let compressed ← storage.readFile node fault storagePath
  match node.gunzip compressed with
  | none => .error .unreadable
  | some bytes =>
    let json := utf8Text bytes
    let actual := node.sha256 (utf8 json)
    if payloadHash ≠ "" ∧ actual ≠ payloadHash then
      .error (.fatal (s!"Marg raw page payload hash mismatch at {storagePath}: " ++
        s!"expected {payloadHash}, got {actual}. Treat as corrupt and refetch.")
        "STORAGE_HASH_MISMATCH")
    else
      match parse N json with
      | some value => .ok value
      | none => .error .unreadable

/-- The store after the saves of a run, those that fail included. -/
def afterSaves (pages : List (Faults × MargRawPageSavePayload ν)) : MargRawPageStorage :=
  pages.foldl (fun storage page => (storage.save node N page.1 page.2).2) storage

end MargRawPageStorage

/-! ### The payload of a page -/

inductive PageSection where
  | details
  | masters
  | mDis
  | party
  | product
  | saleType
  | stock
  | acGroup
  | account
  | acBal
  | pBal
  | outstanding
deriving DecidableEq

namespace PageSection

/-- In the order of the payload's members. -/
def all : List PageSection :=
  [details, masters, mDis, party, product, saleType, stock, acGroup, account, acBal, pBal,
    outstanding]

def name : PageSection → String
  | details => "Details"
  | masters => "Masters"
  | mDis => "MDis"
  | party => "Party"
  | product => "Product"
  | saleType => "SaleType"
  | stock => "Stock"
  | acGroup => "ACGroup"
  | account => "Account"
  | acBal => "AcBal"
  | pBal => "PBal"
  | outstanding => "Outstanding"

end PageSection

/-- What `parseMargPayload` builds. -/
@[ext] structure MargParsedPayload (ν : Type) where
  rows : PageSection → List (Json ν)
  index : ν
  dataStatus : ν
  dateTime : CodeUnits

def MargParsedPayload.members (page : MargParsedPayload ν) : List (CodeUnits × Json ν) :=
  PageSection.all.map (fun s => (ofText s.name, .array (page.rows s))) ++
    [(ofText "Index", .number page.index), (ofText "DataStatus", .number page.dataStatus),
      (ofText "DateTime", .string page.dateTime)]

/-- `Number(value)` where it is finite; a member that is not there is `none`. -/
structure Conversions (ν : Type) where
  zero : ν
  toNumber : Option (Json ν) → Option ν
  toNumber_number (x : ν) : toNumber (some (.number x)) = some x

def toRecord : Json ν → Option (List (CodeUnits × Json ν))
  | .object members => some members
  | _ => none

def arr : Option (Json ν) → List (Json ν)
  | some (.array rows) => rows
  | _ => []

def coerceLoadedPayload (C : Conversions ν) (loaded : Json ν) : MargParsedPayload ν :=
  let p := (toRecord loaded).getD []
  { rows := fun s => arr (p.lookup (ofText s.name))
    index := (C.toNumber (p.lookup (ofText "Index"))).getD C.zero
    dataStatus := (C.toNumber (p.lookup (ofText "DataStatus"))).getD C.zero
    dateTime :=
      match p.lookup (ofText "DateTime") with
      | some (.string value) => value
      | _ => [] }

theorem lookup_members (page : MargParsedPayload ν) (s : PageSection) :
    page.members.lookup (ofText s.name) = some (.array (page.rows s)) := by
  cases s <;> rfl

theorem coerceLoadedPayload_members (C : Conversions ν) (page : MargParsedPayload ν) :
    coerceLoadedPayload C (.object page.members) = page := by
  have hindex : page.members.lookup (ofText "Index") = some (.number page.index) := rfl
  have hstatus : page.members.lookup (ofText "DataStatus") = some (.number page.dataStatus) := rfl
  have hdate : page.members.lookup (ofText "DateTime") = some (.string page.dateTime) := rfl
  simp only [coerceLoadedPayload, toRecord, Option.getD_some, lookup_members, arr, hindex, hstatus,
    hdate, C.toNumber_number]

theorem propertyOrder_eq_self {members : List (CodeUnits × Json ν)}
    (h : ∀ m ∈ members, arrayIndex? m.1 = none) : propertyOrder members = members := by
  have hindices : members.filter (fun m => (arrayIndex? m.1).isSome) = [] := by
    rw [List.filter_eq_nil_iff]
    intro m hm
    rw [h m hm]
    decide
  have hothers : members.filter (fun m => (arrayIndex? m.1).isNone) = members := by
    rw [List.filter_eq_self]
    intro m hm
    rw [h m hm]
    rfl
  rw [propertyOrder, hindices, hothers, List.mergeSort_nil, List.nil_append]

theorem isValue_members {page : MargParsedPayload ν}
    (hrows : ∀ s, ∀ row ∈ page.rows s, IsValue row) : IsValue (.object page.members) := by
  have hkeys : page.members.map Prod.fst =
      (PageSection.all.map PageSection.name ++ ["Index", "DataStatus", "DateTime"]).map ofText := rfl
  have hunique : (page.members.map Prod.fst).Nodup := by
    rw [hkeys]
    decide
  apply IsValue.object _ hunique
  · apply propertyOrder_eq_self
    intro m hm
    have hall : ∀ key ∈ (PageSection.all.map PageSection.name ++
        ["Index", "DataStatus", "DateTime"]).map ofText, arrayIndex? key = none := by decide
    rw [← hkeys] at hall
    exact hall m.1 (List.mem_map_of_mem hm)
  · intro m hm
    rw [MargParsedPayload.members, List.mem_append] at hm
    rcases hm with hm | hm
    · obtain ⟨s, -, rfl⟩ := List.mem_map.1 hm
      exact .array _ (hrows s)
    · simp only [List.mem_cons, List.not_mem_nil, or_false] at hm
      rcases hm with rfl | rfl | rfl
      · exact .number _
      · exact .number _
      · exact .string _

/-! ### What is encoded -/

section Encoding

variable {N : Numerals ν}

theorem flatten_rowChunks_pos (rows : List (Json ν)) :
    ∀ {acc : List Char} {j : ℕ}, 0 < j →
      (rowChunks N acc j rows).flatten = acc ++ rows.flatMap fun row => ',' :: stringify N row := by
  induction rows with
  | nil =>
    intro acc j hj
    cases acc <;> simp [rowChunks]
  | cons row rows ih =>
    intro acc j hj
    rw [rowChunks, if_pos hj]
    split_ifs with hfull
    · rw [List.flatten_cons, ih (Nat.succ_pos j)]
      simp
    · rw [ih (Nat.succ_pos j)]
      simp

/-- The first row has no separator before it. -/
theorem flatten_rowChunks (rows : List (Json ν)) :
    (rowChunks N [] 0 rows).flatten = [','].intercalate (rows.map (stringify N)) := by
  cases rows with
  | nil => rfl
  | cons row rows =>
    rw [rowChunks, if_neg (lt_irrefl 0), List.map_cons, intercalate_cons, List.flatMap_map]
    split_ifs with hfull
    · rw [List.flatten_cons, flatten_rowChunks_pos rows Nat.one_pos]
      rfl
    · rw [flatten_rowChunks_pos rows Nat.one_pos]
      rfl

theorem flatten_valueChunks (value : Json ν) :
    (valueChunks N value).flatten = stringify N value := by
  cases value with
  | array rows =>
    rw [valueChunks, stringify, stringifyItems_eq]
    split_ifs with hnone
    · rw [List.length_eq_zero_iff.1 hnone]
      rfl
    · rw [List.flatten_append, List.flatten_cons, flatten_rowChunks]
      rfl
  | _ => exact List.append_nil _

theorem flatten_memberChunks_pos (members : List (CodeUnits × Json ν)) :
    ∀ {i : ℕ}, 0 < i →
      (memberChunks N i members).flatten = members.flatMap fun m => ',' :: stringifyMember N m := by
  induction members with
  | nil => intro i hi; rfl
  | cons m members ih =>
    intro i hi
    rw [memberChunks, if_pos hi, List.flatten_append, List.flatten_append, List.flatten_singleton,
      List.flatten_cons, flatten_valueChunks, ih (Nat.succ_pos i)]
    simp [stringifyMember]

theorem flatten_memberChunks (members : List (CodeUnits × Json ν)) :
    (memberChunks N 0 members).flatten = [','].intercalate (members.map (stringifyMember N)) := by
  cases members with
  | nil => rfl
  | cons m members =>
    rw [memberChunks, if_neg (lt_irrefl 0), List.map_cons, intercalate_cons, List.flatMap_map,
      List.flatten_append, List.nil_append, List.flatten_cons, flatten_valueChunks,
      flatten_memberChunks_pos members Nat.one_pos]
    simp [stringifyMember]

theorem flatten_map_utf8 (chunks : List (List Char)) :
    (chunks.map utf8).flatten = utf8 chunks.flatten := by
  induction chunks with
  | nil => rfl
  | cons chunk chunks ih => rw [List.map_cons, List.flatten_cons, ih, List.flatten_cons, utf8_append]

theorem flatten_encodeChunks (members : List (CodeUnits × Json ν)) :
    (encodeChunks N members).flatten = utf8 (stringify N (.object members)) := by
  rw [encodeChunks, flatten_map_utf8, List.flatten_append, List.flatten_cons, flatten_memberChunks,
    stringify, stringifyMembers_eq]
  rfl

end Encoding

/-! ### Saving and loading -/

namespace MargRawPageStorage

variable {node : Node} {N : Numerals ν} {storage storage' : MargRawPageStorage} {faults : Faults}
  {payload : MargRawPageSavePayload ν} {descriptor : MargRawPagePayloadDescriptor}

theorem ensureDir_eq_ok {dir : String} (h : storage.ensureDir faults dir = .ok storage') :
    storage'.rootDir = storage.rootDir ∧ storage'.files = storage.files := by
  unfold ensureDir at h
  split_ifs at h with hdir
  · cases h
    exact ⟨rfl, rfl⟩
  · split at h
    · cases h
    · cases h
      exact ⟨rfl, rfl⟩

/-- What a save can do to the store: nothing, or write the one file of its path. -/
theorem save_cases (node : Node) (N : Numerals ν) (storage : MargRawPageStorage) (faults : Faults)
    (payload : MargRawPageSavePayload ν) :
    (storage.save node N faults payload).2.rootDir = storage.rootDir ∧
      ((storage.save node N faults payload).2.files = storage.files ∨
        ∃ relPath bytes, buildRelativePath node payload = .ok relPath ∧
          (storage.save node N faults payload).2.files =
            Function.update storage.files (storage.absPath node relPath) bytes) := by
  unfold save
  split
  · exact ⟨rfl, .inl rfl⟩
  · rename_i relPath hpath
    dsimp only
    split
    · exact ⟨rfl, .inl rfl⟩
    · rename_i ensured hdir
      obtain ⟨hroot, hfiles⟩ := ensureDir_eq_ok hdir
      split
      · exact ⟨hroot, .inr ⟨relPath, _, hpath, by rw [put, hfiles]⟩⟩
      · exact ⟨hroot, .inr ⟨relPath, _, hpath, by rw [put, hfiles]⟩⟩

theorem save_eq_ok (h : (storage.save node N faults payload).1 = .ok descriptor) :
    buildRelativePath node payload = .ok descriptor.storagePath ∧
      descriptor.payloadHash =
        node.sha256 (encodeChunks N payload.parsedPayload.members).flatten ∧
      descriptor.decryptedSize = (encodeChunks N payload.parsedPayload.members).flatten.length ∧
      (storage.save node N faults payload).2.files (storage.absPath node descriptor.storagePath) =
        some (node.gzip (encodeChunks N payload.parsedPayload.members)) := by
  unfold save at h ⊢
  split at h
  · cases h
  · rename_i relPath hpath
    dsimp only at h ⊢
    split at h
    · cases h
    · rename_i ensured hdir
      split at h
      · cases h
      · cases h
        exact ⟨hpath, rfl, List.length_flatten.symm, Function.update_self ..⟩

theorem save_of_isSafe (htenant : isSafe payload.tenantId = true)
    (hconfig : isSafe payload.configId = true) (hlog : isSafe payload.syncLogId = true) :
    ∃ d, (storage.save node N {} payload).1 = .ok d := by
  unfold save buildRelativePath safe ensureDir
  rw [if_pos htenant, if_pos hconfig, if_pos hlog]
  dsimp only [bind, Except.bind, pure, Except.pure]
  split_ifs
  · exact ⟨_, rfl⟩
  · exact ⟨_, rfl⟩

theorem rootDir_afterSaves (pages : List (Faults × MargRawPageSavePayload ν)) :
    (storage.afterSaves node N pages).rootDir = storage.rootDir := by
  induction pages generalizing storage with
  | nil => rfl
  | cons page pages ih =>
    rw [afterSaves, List.foldl_cons]
    exact ih.trans (save_cases node N storage page.1 page.2).1

/-- The saves of other paths leave a file alone. -/
theorem files_afterSaves {path : String} {pages : List (Faults × MargRawPageSavePayload ν)}
    (h : ∀ page ∈ pages, ∀ relPath, buildRelativePath node page.2 = .ok relPath →
      storage.absPath node relPath ≠ path) :
    (storage.afterSaves node N pages).files path = storage.files path := by
  induction pages generalizing storage with
  | nil => rfl
  | cons page pages ih =>
    obtain ⟨hpage, hpages⟩ := List.forall_mem_cons.1 h
    obtain ⟨hroot, hfiles⟩ := save_cases node N storage page.1 page.2
    have hone : (storage.save node N page.1 page.2).2.files path = storage.files path := by
      rcases hfiles with hsame | ⟨relPath, bytes, hrel, hwritten⟩
      · rw [hsame]
      · rw [hwritten, Function.update_of_ne (hpage relPath hrel).symm]
    rw [afterSaves, List.foldl_cons, ← hone]
    apply ih
    intro p hp relPath hrel
    rw [absPath, hroot]
    exact hpages p hp relPath hrel

theorem load_of_files (hnode : node.Correct) {storagePath : String} {payload : Payload ν}
    (hfile : storage.files (storage.absPath node storagePath) =
      some (node.gzip (encodeChunks N payload.members))) :
    storage.load node N none storagePath
      (node.sha256 (encodeChunks N payload.members).flatten) = .ok (.object payload.members) := by
  rw [load, readFile, hfile]
  dsimp only [bind, Except.bind]
  rw [hnode.gunzip_gzip]
  dsimp only
  rw [flatten_encodeChunks, utf8Text_utf8, if_neg (fun h => h.2 rfl),
    parse_stringify payload.isValue]

theorem load_afterSaves (hnode : node.Correct)
    {before after : List (Faults × MargRawPageSavePayload ν)}
    (hsaved : ((storage.afterSaves node N before).save node N faults payload).1 = .ok descriptor)
    (hafter : ∀ later ∈ after, ∀ relPath, buildRelativePath node later.2 = .ok relPath →
      storage.absPath node relPath ≠ storage.absPath node descriptor.storagePath) :
    (storage.afterSaves node N (before ++ (faults, payload) :: after)).load node N none
      descriptor.storagePath descriptor.payloadHash =
        .ok (.object payload.parsedPayload.members) := by
  obtain ⟨-, hhash, -, hfile⟩ := save_eq_ok hsaved
  set saved := ((storage.afterSaves node N before).save node N faults payload).2
  have hroot : saved.rootDir = storage.rootDir :=
    (save_cases ..).1.trans (rootDir_afterSaves before)
  have hend : storage.afterSaves node N (before ++ (faults, payload) :: after) =
      saved.afterSaves node N after := by
    rw [afterSaves, List.foldl_append, List.foldl_cons]
    rfl
  have hkept : (saved.afterSaves node N after).files
      (storage.absPath node descriptor.storagePath) =
        saved.files (storage.absPath node descriptor.storagePath) := by
    apply files_afterSaves
    intro page hpage relPath hrel
    rw [absPath, hroot]
    exact hafter page hpage relPath hrel
  rw [absPath, rootDir_afterSaves] at hfile
  rw [hend, hhash]
  apply load_of_files hnode
  rw [absPath, rootDir_afterSaves, hroot]
  exact hkept.trans hfile

theorem load_eq_ok {fault : Option String} {storagePath payloadHash : String} {value : Json ν}
    (hhash : payloadHash ≠ "")
    (h : storage.load node N fault storagePath payloadHash = .ok value) :
    ∃ compressed bytes, storage.files (storage.absPath node storagePath) = some compressed ∧
      node.gunzip compressed = some bytes ∧ node.sha256 (utf8 (utf8Text bytes)) = payloadHash ∧
      parse N (utf8Text bytes) = some value := by
  unfold load readFile at h
  cases fault with
  | some code => cases h
  | none =>
    cases hfile : storage.files (storage.absPath node storagePath) with
    | none => rw [hfile] at h; cases h
    | some compressed =>
      rw [hfile] at h
      dsimp only [bind, Except.bind] at h
      cases hbytes : node.gunzip compressed with
      | none => rw [hbytes] at h; cases h
      | some bytes =>
        rw [hbytes] at h
        dsimp only at h
        split_ifs at h with hmismatch
        have hactual : node.sha256 (utf8 (utf8Text bytes)) = payloadHash := by
          by_contra hne
          exact hmismatch ⟨hhash, hne⟩
        cases hvalue : parse N (utf8Text bytes) with
        | none => rw [hvalue] at h; cases h
        | some parsed =>
          rw [hvalue] at h
          cases h
          exact ⟨compressed, bytes, rfl, hbytes, hactual, hvalue⟩

end MargRawPageStorage

/-- A page that was saved in a run is what the run's end loads for it. -/
structure KeepsPages (node : Node) (N : Numerals ν) (C : Conversions ν) : Prop where
  encodes (payload : Payload ν) :
    (encodeChunks N payload.members).flatten = utf8 (stringify N (.object payload.members))
  saves (storage : MargRawPageStorage) (payload : MargRawPageSavePayload ν) :
    isSafe payload.tenantId = true → isSafe payload.configId = true →
      isSafe payload.syncLogId = true → ∃ d, (storage.save node N {} payload).1 = .ok d
  /-- The hash and the size on the row of the page are those of `JSON.stringify`. -/
  records (storage : MargRawPageStorage) (faults : Faults) (payload : MargRawPageSavePayload ν)
    (d : MargRawPagePayloadDescriptor) (hsaved : (storage.save node N faults payload).1 = .ok d) :
    d.payloadHash = node.sha256 (utf8 (stringify N (.object payload.parsedPayload.members))) ∧
      d.payloadHash ≠ "" ∧
      d.decryptedSize = (utf8 (stringify N (.object payload.parsedPayload.members))).length
  /-- Whatever was saved before, and after it to other paths. -/
  replays (storage : MargRawPageStorage) (before after : List (Faults × MargRawPageSavePayload ν))
    (faults : Faults) (payload : MargRawPageSavePayload ν) (d : MargRawPagePayloadDescriptor)
    (hsaved : ((storage.afterSaves node N before).save node N faults payload).1 = .ok d)
    (hafter : ∀ later ∈ after, ∀ relPath,
      MargRawPageStorage.buildRelativePath node later.2 = .ok relPath →
        storage.absPath node relPath ≠ storage.absPath node d.storagePath) :
    (storage.afterSaves node N (before ++ (faults, payload) :: after)).load node N none
      d.storagePath d.payloadHash = .ok (.object payload.parsedPayload.members)
  /-- What is loaded with a hash has the hash, whatever happened to the file. -/
  verifies (storage : MargRawPageStorage) (fault : Option String) (storagePath hash : String)
    (value : Json ν) (hhash : hash ≠ "")
    (hload : storage.load node N fault storagePath hash = .ok value) :
    ∃ compressed bytes, storage.files (storage.absPath node storagePath) = some compressed ∧
      node.gunzip compressed = some bytes ∧ node.sha256 (utf8 (utf8Text bytes)) = hash ∧
      parse N (utf8Text bytes) = some value
  /-- A fetched page is a payload, and what is loaded of it is coerced to the page. -/
  resumes (page : MargParsedPayload ν) (hrows : ∀ s, ∀ row ∈ page.rows s, IsValue row) :
    IsValue (.object page.members) ∧ coerceLoadedPayload C (.object page.members) = page

theorem keepsPages {node : Node} (hnode : node.Correct) (N : Numerals ν) (C : Conversions ν) :
    KeepsPages node N C where
  encodes payload := flatten_encodeChunks payload.members
  saves _ _ htenant hconfig hlog := MargRawPageStorage.save_of_isSafe htenant hconfig hlog
  records storage faults payload d hsaved := by
    obtain ⟨-, hhash, hsize, -⟩ := MargRawPageStorage.save_eq_ok hsaved
    rw [flatten_encodeChunks] at hhash hsize
    exact ⟨hhash, by rw [hhash]; exact hnode.sha256_ne _, hsize⟩
  replays _ _ _ _ _ _ hsaved hafter := MargRawPageStorage.load_afterSaves hnode hsaved hafter
  verifies _ _ _ _ _ hhash hload := MargRawPageStorage.load_eq_ok hhash hload
  resumes page hrows := ⟨isValue_members hrows, coerceLoadedPayload_members C page⟩

def wholeNumbers : Numerals ℕ where
  shown := Nat.toDigits 10
  read cs := if cs ≠ [] ∧ cs.all Char.isDigit then some (Nat.ofDigitChars 10 cs 0) else none
  read_nil := rfl
  read_shown n := by
    rw [if_pos, Nat.ofDigitChars_ten_toDigits]
    refine ⟨Nat.toDigits_ne_nil, List.all_eq_true.2 fun c hc => ?_⟩
    exact Nat.isDigit_of_mem_toDigits (by decide) (by decide) hc
  numeric_shown n c hc := by
    have hdigit := Nat.isDigit_of_mem_toDigits (by decide) (by decide) hc
    rw [Char.isDigit, Bool.and_eq_true, decide_eq_true_eq, decide_eq_true_eq] at hdigit
    have hfrom : 48 ≤ c.toNat := hdigit.1
    have hto : c.toNat ≤ 57 := hdigit.2
    rw [← Char.ofNat_toNat c]
    interval_cases c.toNat <;> decide

def wholeConversions : Conversions ℕ where
  zero := 0
  toNumber
    | some (.number x) => some x
    | _ => none
  toNumber_number _ := rfl

def saleRow : Json ℕ :=
  .object [(ofText "Bill", .string (ofText "A\"1")), (ofText "Qty", .number 5),
    (ofText "Tags", .array [])]

def salePage : MargParsedPayload ℕ where
  rows s := if s = .details then [saleRow] else []
  index := 7
  dataStatus := 10
  dateTime := ofText "2025-04-01"

/-- A section with one row, whose fields are `"A\"1"`, `5` and `[]`, then the empty sections and
the cursor. -/
def salePageBytes : List UInt8 := utf8 (stringify wholeNumbers (.object salePage.members))

def salePageGzip : List UInt8 :=
  [31, 139, 8, 0, 0, 0, 0, 0, 0, 3, 61, 206, 77, 11, 194, 48, 12, 6, 224, 255, 146, 115, 133,
    110, 56, 132, 222, 54, 7, 226, 65, 84, 182, 155, 238, 16, 186, 50, 138, 181, 29, 93, 10, 142,
    177, 255, 238, 190, 244, 246, 62, 73, 72, 50, 64, 174, 8, 181, 233, 64, 60, 6, 200, 180, 49,
    32, 32, 125, 66, 4, 12, 238, 212, 131, 72, 24, 148, 216, 204, 237, 106, 172, 24, 92, 176, 35,
    229, 23, 78, 200, 245, 150, 110, 232, 231, 225, 37, 122, 87, 7, 73, 43, 10, 52, 170, 236, 91,
    181, 137, 156, 124, 173, 49, 61, 158, 188, 11, 237, 6, 41, 93, 176, 244, 67, 134, 102, 91,
    245, 79, 215, 64, 29, 161, 173, 181, 109, 214, 194, 217, 214, 234, 3, 226, 192, 32, 71, 194,
    130, 144, 194, 244, 74, 196, 23, 171, 82, 191, 167, 147, 16, 243, 56, 217, 241, 253, 142, 71,
    48, 126, 1, 136, 121, 241, 178, 233, 0, 0, 0]

/-- What Node makes of the page; anything else is kept as it is behind a zero. -/
def saleNode : Node where
  sha256 bytes :=
    if bytes = salePageBytes then
      "cf04fa768bab502d3cbc4d0256ffe7942889567a4a89078823650b66da845212"
    else "0"
  join := "/".intercalate
  dirname path := String.ofList ((path.toList.reverse.dropWhile (· ≠ '/')).drop 1).reverse
  gzip chunks :=
    if chunks.flatten = salePageBytes then salePageGzip else 0 :: chunks.flatten
  gunzip bytes :=
    if bytes = salePageGzip then some salePageBytes
    else if bytes.head? = some 0 then some bytes.tail else none

theorem saleNode_correct : saleNode.Correct where
  sha256_ne bytes := by
    unfold saleNode
    dsimp only
    split_ifs <;> decide
  gunzip_gzip chunks := by
    unfold saleNode
    dsimp only
    by_cases hpage : chunks.flatten = salePageBytes
    · rw [if_pos hpage, if_pos rfl, hpage]
    · have hfile : 0 :: chunks.flatten ≠ salePageGzip := by
        intro h
        exact absurd (List.cons.inj h).1 (by decide)
      rw [if_neg hpage, if_neg hfile]
      rfl

theorem isValue_saleRow : IsValue saleRow := by
  apply IsValue.object _ (by decide) (propertyOrder_eq_self (by simp; decide))
  simp only [List.forall_mem_cons, List.not_mem_nil, false_imp_iff, implies_true, and_true]
  exact ⟨.string _, .number _, .array [] (by simp)⟩

def salePayload : MargRawPageSavePayload ℕ where
  tenantId := "t1"
  configId := "c1"
  syncLogId := "l1"
  apiType := .inventory
  requestIndex := 0
  parsedPayload :=
    { members := salePage.members
      isValue := isValue_members fun s row hrow => by
        rw [salePage] at hrow
        dsimp only at hrow
        split_ifs at hrow
        · rw [List.mem_singleton.1 hrow]
          exact isValue_saleRow
        · cases hrow }

theorem keepsPages_salePage :
    let storage : MargRawPageStorage := { rootDir := "/pages" }
    ∃ d, (storage.save saleNode wholeNumbers {} salePayload).1 = .ok d ∧
      d.payloadHash = "cf04fa768bab502d3cbc4d0256ffe7942889567a4a89078823650b66da845212" ∧
      (storage.save saleNode wholeNumbers {} salePayload).2.load saleNode wholeNumbers none
        d.storagePath d.payloadHash = .ok (.object salePage.members) ∧
      coerceLoadedPayload wholeConversions (.object salePage.members) = salePage := by
  intro storage
  have hkeeps := keepsPages saleNode_correct wholeNumbers wholeConversions
  obtain ⟨d, hd⟩ := hkeeps.saves storage salePayload (by decide) (by decide) (by decide)
  obtain ⟨hhash, -, -⟩ := hkeeps.records storage {} salePayload d hd
  have hload := hkeeps.replays storage [] [] {} salePayload d hd (by simp)
  refine ⟨d, hd, ?_, hload, coerceLoadedPayload_members _ _⟩
  have hbytes : utf8 (stringify wholeNumbers (.object salePayload.parsedPayload.members)) =
      salePageBytes := rfl
  rw [hhash, hbytes, saleNode]
  dsimp only
  rw [if_pos rfl]

end Forecast.RawPages
