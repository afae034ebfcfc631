import Voicemail.Client
import Voicemail.FileTree

/-!
# Installations

A client whose store is kept among files. Opening a store reads it into the client, and settling
puts it back; what the client does in between changes no file.
-/

namespace Voicemail

/-- A client among files. -/
structure Installation where
  client : Client
  directory : Path
  tree : FileTree
  /-- Where the client's store is kept. -/
  place : Store.Place := .memory

namespace Installation

/-- The files with the client's store among them. -/
def settled (i : Installation) : FileTree :=
  i.tree.keep ⟨i.client.preferences, i.client.journal⟩ i.place

/-- Opens the store that settings name, and gives the client a bus if it is to have one. -/
def openStore (i : Installation) (settings : Settings) (bus : Bool)
    (installed : List EntryPoint) : Except Failure Unit × Installation :=
  match i.tree.openStore i.directory settings.databasePath with
  | (tree, .error e) => (.error e, { i with tree })
  | (tree, .ok o) =>
    let c := { i.client with
      settings, preferences := o.store.preferences, journal := o.store.journal
      inMemory := o.place = .memory }
    let (r, c) :=
      if bus then Client.startBus installed settings.dispatchSync c else (.ok (), c)
    (r, { i with client := c, tree, place := o.place })

/-- Closes the client; its store stays where it is kept. -/
def close (i : Installation) : Installation :=
  let (_, client) := Client.close i.client
  let i := { i with client }
  { i with tree := i.settled }

end Installation

end Voicemail
