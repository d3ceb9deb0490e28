import BucketProvisioning.Api.Reply
import BucketProvisioning.Api.Request
import BucketProvisioning.Text.Form
import BucketProvisioning.Watch.Notification

/-!
# Following a collection

The objects of a kind are followed by a list and a watch that begins where the list ended.  A list
comes in pages.  A watch that ends is begun anew at the version that was seen last; if the server
no longer knows that version, everything begins anew with a list.  Any other trouble with a message
leaves the watch open.

A `Follower` says where this stands, and each of its functions what one message from the server
leads to.
-/

set_option autoImplicit false

namespace BucketProvisioning.Watch

open BucketProvisioning BucketProvisioning.Resource
open BucketProvisioning.Api (Collection Request Reply Delivery)
open BucketProvisioning.Text (formValue)

/-- A page of a list. -/
structure Page (α : Type) where
  /-- Its objects. -/
  items : List α
  /-- The version at which the list was taken. -/
  version : Option String
  /-- The token by which the next page is asked for; none on the last page. -/
  next : Option String
deriving Repr

/-- A message of a watch. -/
inductive WatchMessage (α : Type) where
  /-- An object is new or has changed. -/
  | applied (obj : α)
  /-- An object is gone. -/
  | deleted (obj : α)
  /-- Everything up to a version has been told. -/
  | bookmark (version : String)
  /-- The watch fails. -/
  | refused (r : Rejection)
  /-- The message cannot be read. -/
  | unreadable
deriving Repr

open Decoder

namespace Page

/-- The place of a page among the pages of its list: version and token, unless they are empty. -/
def decodePlace : Decoder (Option String × Option String) :=
  let filled (a : Option String) : Option String := a.filter (!·.isEmpty)
  openRecord "ListMeta" (.plain (none, none) [
    textField "continue" fun a p => (p.1, filled a),
    .checked "remainingItemCount" int64.optional,
    textField "resourceVersion" fun a p => (filled a, p.2),
    .checked "selfLink" text.optional])

/-- Reads a page; its group, version and kind do not matter, but have to be documents. -/
def decode {α : Type} [Object α] : Decoder (Page α) :=
  flattened "ObjectList" {
    start := ⟨[], none, none⟩
    fields := [
      .of "metadata" decodePlace fun a p => { p with version := a.1, next := a.2 },
      .stored "items" .required ((Object.decode (α := α)).list.orElse []) fun a p =>
        { p with items := a }]
    other := some fun _ _ p => p
    finish := .ok }

end Page

/-- What a message of a watch is about. -/
inductive MessageType where
  /-- An object is new. -/
  | added
  /-- An object has changed. -/
  | modified
  /-- An object is gone. -/
  | deleted
  /-- Everything up to a version has been told. -/
  | bookmark
  /-- The watch fails. -/
  | error
deriving DecidableEq, Repr

namespace MessageType

/-- Reads what a message is about. -/
def decode : Decoder MessageType :=
  oneOf [("ADDED", .added), ("MODIFIED", .modified), ("DELETED", .deleted),
    ("BOOKMARK", .bookmark), ("ERROR", .error)]

/-- Group, version and kind. -/
def decodeKind : Decoder Unit :=
  structured "TypeMeta" (.plain () [
    .stored "apiVersion" .required text fun _ r => r,
    .stored "kind" .required text fun _ r => r])

/-- The version of a bookmark's metadata. -/
def decodeBookmarkMeta : Decoder String :=
  structured "BookmarkMeta" (.plain "" [
    .stored "resourceVersion" .required text fun a _ => a,
    .checked "annotations" Labels.decode])

/-- The version of a bookmark; the fields beside its metadata have to name its kind. -/
def decodeBookmark : Decoder String :=
  flattened "Bookmark" {
    start := (([] : List (String × Json)), "")
    fields := [.stored "metadata" .required decodeBookmarkMeta fun a r => (r.1, a)]
    other := some fun name j r => (r.1 ++ [(name, j)], r.2)
    finish := fun r => do
      decodeKind.ofJson (.obj r.1)
      return r.2 }

/-- Reads the content of a message. -/
def decodeContent {α : Type} [Object α] : MessageType → Decoder (WatchMessage α)
  | .added | .modified => (Object.decode (α := α)).map .applied
  | .deleted => (Object.decode (α := α)).map .deleted
  | .bookmark => decodeBookmark.map .bookmark
  | .error => Rejection.decode.map .refused

end MessageType

namespace WatchMessage

/-- A message in the making. -/
structure Draft (α : Type) where
  /-- What it is about, as soon as that is known. -/
  type : Option MessageType := none
  /-- Its content, if it came before what it is about. -/
  content : Option Json := none
  /-- The message, once both are known. -/
  message : Option (WatchMessage α) := none

/-- Reads a message: what it is about, and its content, which may come first. -/
def decode {α : Type} [Object α] : Decoder (WatchMessage α) :=
  structured "WatchEvent" {
    start := ({} : Draft α)
    fields := [
      ⟨"type", .required, fun d => MessageType.decode.andThen fun t =>
        match d.content with
        | none => .ok { d with type := some t }
        | some j => (t.decodeContent.ofJson j).map fun m => { d with message := some m }⟩,
      ⟨"object", .required, fun d =>
        match d.type with
        | some t => t.decodeContent.map fun m => { d with message := some m }
        | none => verbatim.map fun j => { d with content := some j }⟩]
    finish := fun d =>
      match d.message with
      | some m => .ok m
      | none => .error (.missingField "object") }

/-- The message of a line; a line that ends too early is none. -/
def ofLine? {α : Type} [Object α] (line : String) : Option (WatchMessage α) :=
  match decode.read line with
  | .ok m => some m
  | .error e => if e.isUnfinished then none else some .unreadable

end WatchMessage

/-- Where following a collection stands. -/
inductive Follower where
  /-- Everything has to begin anew. -/
  | fresh
  /-- A page of the list is to be asked for: the first, or the one that a token names. -/
  | listing (next : Option String)
  /-- The list is complete up to a version, and a watch is to be begun there. -/
  | listed (version : String)
  /-- A watch is open; a new one would begin at the version. -/
  | watching (version : String)
deriving DecidableEq, Repr, Inhabited

/-- What a message leads to. -/
structure Progress (α : Type) where
  /-- What is told about the objects, in order. -/
  events : List (WatchEvent α) := []
  /-- Where things stand then. -/
  next : Follower
  /-- Whether something failed, so that it is better to wait a little. -/
  failed : Bool := false

namespace Follower

/-- How many objects a page may have. -/
def pageSize : Nat := 500

/-- For how many seconds a watch is asked to stay open. -/
def watchSeconds : Nat := 290

/-- The address of a page of the list. -/
def listAddress (c : Collection) (next : Option String) : String :=
  c.path ++ "?&limit=" ++ toString pageSize
    ++ (match next with
      | some token => "&continue=" ++ formValue token
      | none => "")

/-- The address of a watch. -/
def watchAddress (c : Collection) (version : String) : String :=
  c.path ++ "?&watch=true&timeoutSeconds=" ++ toString watchSeconds
    ++ "&allowWatchBookmarks=true&resourceVersion=" ++ formValue version

variable {α : Type}

/-- Everything begins anew. -/
def restart : Progress α := { events := [.listBegin], next := .listing none }

/-- A page of the list comes in.  Without a version the list is of no use, for no watch could
begin where it ended. -/
def receivePage : Except ApiFault (Page α) → Progress α
  | .error _ => { next := .fresh, failed := true }
  | .ok page =>
    let items := page.items.map WatchEvent.listed
    match page.next, page.version with
    | some token, _ => { events := items, next := .listing (some token) }
    | none, some version => { events := items ++ [.listEnd], next := .listed version }
    | none, none => { next := .fresh, failed := true }

/-- A watch that was to begin at a version begins, or fails to. -/
def receiveStart (version : String) : Except ApiFault Unit → Progress α
  | .ok () => { next := .watching version }
  | .error _ => { next := .listed version, failed := true }

/-- An object comes in by a watch; without a version nothing is known of where the watch is. -/
def receiveObject [Object α] (obj : α) (told : α → WatchEvent α) : Progress α :=
  match (Object.metadata obj).resourceVersion.filter (!·.isEmpty) with
  | some version => { events := [told obj], next := .watching version }
  | none => { next := .fresh, failed := true }

/-- The status code by which a server says that it no longer knows a version. -/
def goneCode : Nat := 410

/-- A message comes in by a watch that has come to a version. -/
def receiveMessage [Object α] (version : String) : WatchMessage α → Progress α
  | .applied obj => receiveObject obj .apply
  | .deleted obj => receiveObject obj .delete
  | .bookmark newer => { next := .watching newer }
  | .refused r =>
    { next := if r.code = goneCode then .fresh else .watching version, failed := true }
  | .unreadable => { next := .watching version, failed := true }

/-- A watch that has come to a version ends. -/
def receiveEnd (version : String) : Progress α := { next := .listed version }

end Follower

end BucketProvisioning.Watch
