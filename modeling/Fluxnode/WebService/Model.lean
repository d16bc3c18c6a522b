import Fluxnode.C.File

/-!
# Web service

The handlers of the web server and the files that they read and write.  A
request brings its query, the number of bytes that its header announces, and
what `httpd_req_recv` returns for its body, call by call.
-/

namespace Fluxnode
namespace WebService

open C

/-- The size of the partition `storage`.  The handlers do not depend on it. -/
def storageSize : Nat := 0xF0000

variable {capacity : Nat}

def fsBase : List UInt8 := ascii "/"

def bufSize : Nat := 1024

def protectedFile : UInt8 := 0x5f

/-!
## Requests and answers
-/

inductive Method where
  | get
  | post
  | other
  deriving DecidableEq, Repr

/-- What a call of `httpd_req_recv` with a buffer of `bufSize` bytes brings. -/
structure Piece where
  bytes : List UInt8
  nonempty : 0 < bytes.length
  length_le : bytes.length ≤ bufSize
  deriving DecidableEq, Repr

inductive Recv where
  | data (piece : Piece)
  | timeout
  | failed
  deriving DecidableEq, Repr

structure Request where
  method : Method
  /-- The path of the URI, in front of the query. -/
  uri : String
  query : Option CString
  /-- The string that the buffer of the query holds when there is no query: it
  is not written then. -/
  stale : CString
  contentLen : UInt32
  recvs : List Recv
  deriving DecidableEq, Repr

/-- `url`, after `httpd_req_get_url_query_str`. -/
def Request.url (req : Request) : List UInt8 :=
  (req.query.getD req.stale).bytes

inductive EspErr where
  | ok
  | fail
  deriving DecidableEq, Repr

inductive Sent where
  | str (text : String)
  | chunk (data : List UInt8)
  | timeout408
  | notFound404 (text : String)
  | notAllowed405
  deriving DecidableEq, Repr

inductive ControlCmd where
  | none
  | reset
  | setLoad
  | reboot
  | deleteFile
  deriving DecidableEq, Repr

inductive Touch where
  | read (name : List UInt8)
  /-- Created, or overwritten from its start. -/
  | write (name : List UInt8)
  | remove (name : List UInt8)
  deriving DecidableEq, Repr

def Touch.name : Touch -> List UInt8
  | .read name => name
  | .write name => name
  | .remove name => name

structure Reply (capacity : Nat) where
  files : Files capacity
  touched : List Touch
  sent : List Sent
  /-- The call of `control_func`. -/
  control : Option (ControlCmd × Option (List UInt8))
  /-- Every `fwrite` stored all of its bytes. -/
  stored : Bool
  result : EspErr

def Reply.only (files : Files capacity) (sent : List Sent)
    (result : EspErr) : Reply capacity where
  files := files
  touched := []
  sent := sent
  control := none
  stored := true
  result := result

/-!
## POST
-/

inductive PostEnd where
  | complete
  | timeout
  | closed
  deriving DecidableEq, Repr

structure PostResult (capacity : Nat) where
  file : FileContent capacity
  stored : Bool
  ended : PostEnd

/-- The loop of `post_handler` from its `k`-th round on.  After the last piece
the connection is closed. -/
def postLoop (o : Outcomes) (contentLen : UInt32) :
    List Recv -> Nat -> UInt32 -> Bool -> FileContent capacity ->
      PostResult capacity
  | [], _, _, stored, file => ⟨file, stored, .closed⟩
  | .timeout :: _, _, _, stored, file => ⟨file, stored, .timeout⟩
  | .failed :: _, _, _, stored, file => ⟨file, stored, .closed⟩
  | .data piece :: rest, k, bread, stored, file =>
      let whole := decide (storedPart file piece.bytes (o.stores k) = piece.bytes)
      let file := fwrite file piece.bytes (o.stores k)
      let bread := bread + UInt32.ofNat piece.bytes.length
      if bread ≥ contentLen then
        let newline := ascii "\n"
        { file := fwrite file newline (o.stores (k + 1))
          stored := stored && whole &&
            decide (storedPart file newline (o.stores (k + 1)) = newline)
          ended := .complete }
      else
        postLoop o contentLen rest (k + 1) bread (stored && whole) file

def postHandler (o : Outcomes) (req : Request) (files : Files capacity) :
    Reply capacity :=
  if req.url.head? = some protectedFile then
    .only files [.str "Access Denied"] .fail
  else
    let fname := fsBase ++ req.url
    if o.opens = false then
      .only files [.str "FileCreateError"] .fail
    else
      let r := postLoop o req.contentLen req.recvs 0 0 true .empty
      { files := files.set fname (some r.file)
        touched := [.write fname]
        sent :=
          match r.ended with
          | .complete => [.str "OK"]
          | .timeout => [.timeout408, .str "Error"]
          | .closed => [.str "Error"]
        control := none
        stored := r.stored
        result := if r.ended = .complete then .ok else .fail }

/-!
## GET
-/

/-- The loop of `get_file_by_name` from its `k`-th round on.  The result of the
`k`-th `httpd_resp_send_chunk` with data is `sends k`; only a negative one
counts as an error. -/
def getLoop (o : Outcomes) (sends : Nat -> Int32) (file : FileContent capacity)
    (k pos : Nat) : List Sent × EspErr :=
  if sends k < 0 then
    ([.chunk (fread file pos bufSize (o.brings k)), .str "Error"], .fail)
  else if (fread file pos bufSize (o.brings k)).length < bufSize then
    if fread file pos bufSize (o.brings k) = [] then
      ([.chunk []], .ok)
    else
      ([.chunk (fread file pos bufSize (o.brings k)), .chunk []], .ok)
  else
    let r := getLoop o sends file (k + 1) (pos + bufSize)
    (.chunk (fread file pos bufSize (o.brings k)) :: r.1, r.2)
termination_by file.bytes.length - pos
decreasing_by
  rename_i _ hfull
  simp only [fread, List.length_take, List.length_drop, bufSize] at hfull ⊢
  lia

def getFileByName (o : Outcomes) (sends : Nat -> Int32) (name : List UInt8)
    (files : Files capacity) : Reply capacity :=
  let fname := fsBase ++ name
  match fopenRead o files fname with
  | none => .only files [.str "NoSuchFileError"] .fail
  | some file =>
      let r := getLoop o sends file 0 0
      { files := files
        touched := [.read fname]
        sent := r.1
        control := none
        stored := true
        result := r.2 }

def getHandler (o : Outcomes) (sends : Nat -> Int32) (req : Request)
    (files : Files capacity) : Reply capacity :=
  if req.url.head? = some protectedFile then
    .only files [.str "Access Denied"] .fail
  else
    getFileByName o sends req.url files

def getIndexHandler (o : Outcomes) (sends : Nat -> Int32)
    (files : Files capacity) : Reply capacity :=
  getFileByName o sends (ascii "index.html") files

/-!
## Control
-/

def controlNames : List (List UInt8 × ControlCmd) :=
  [(ascii "reset", .reset),
    (ascii "setload", .setLoad),
    (ascii "reboot", .reboot),
    (ascii "deletefile", .deleteFile)]

def findControl (url : List UInt8) : Option (List UInt8 × ControlCmd) :=
  controlNames.find? (fun entry => entry.1.isPrefixOf url)

/-- The string behind the name and one more byte, if there is one. -/
def controlData (name url : List UInt8) : Option (List UInt8) :=
  if url.length > name.length + 1 then
    some (url.drop (name.length + 1))
  else
    none

/-- `unlink`, as `control_handler` calls it. -/
def unlinkFile (o : Outcomes) (fname : List UInt8)
    (files : Files capacity) : Reply capacity :=
  if (files fname).isSome ∧ o.unlinks = true then
    { files := files.set fname none
      touched := [.remove fname]
      sent := [.str "OK"]
      control := none
      stored := true
      result := .ok }
  else
    .only files [.str "Error"] .ok

def controlHandler (o : Outcomes) (req : Request) (files : Files capacity) :
    Reply capacity :=
  let answer := Reply.only files [.str "OK"] .ok
  match findControl req.url with
  | none => answer
  | some (name, .setLoad) =>
      { answer with control := some (.setLoad, controlData name req.url) }
  | some (name, .deleteFile) =>
      match controlData name req.url with
      | none => { answer with control := some (.deleteFile, none) }
      | some data => unlinkFile o (fsBase ++ data) files
  | some (_, cmd) => { answer with control := some (cmd, none) }

/-!
## The server
-/

structure Conditions where
  library : Outcomes
  sends : Nat -> Int32

/-- The handlers that `webserver_start` registers, and the one for errors. -/
def handle (readOnly : Int32) (c : Conditions) (req : Request)
    (files : Files capacity) : Reply capacity :=
  match req.uri with
  | "/file" =>
      if req.method = .post ∧ readOnly = 0 then
        postHandler c.library req files
      else if req.method = .get then
        getHandler c.library c.sends req files
      else
        .only files [.notAllowed405] .fail
  | "/control" =>
      if readOnly ≠ 0 then
        .only files [.notFound404 "Not found"] .fail
      else if req.method = .get then
        controlHandler c.library req files
      else
        .only files [.notAllowed405] .fail
  | "/" =>
      if req.method = .get then
        getIndexHandler c.library c.sends files
      else
        .only files [.notAllowed405] .fail
  | _ => .only files [.notFound404 "Not found"] .fail

/-- Between two requests the runtime changes files, too. -/
inductive Event (capacity : Nat) where
  | request (c : Conditions) (req : Request)
  | runtime (files : Files capacity)

def serve (readOnly : Int32) :
    Event capacity -> Files capacity -> Files capacity × List Touch
  | .request c req, files =>
      let reply := handle readOnly c req files
      (reply.files, reply.touched)
  | .runtime files, _ => (files, [])

def touches (readOnly : Int32) :
    List (Event capacity) -> Files capacity -> List Touch
  | [], _ => []
  | event :: rest, files =>
      (serve readOnly event files).2 ++
        touches readOnly rest (serve readOnly event files).1

end WebService
end Fluxnode
