/-
Module: Backoffice.Storage.Journal
Purpose: Storages that write down what they are told and asked.
Main exports: StorageCall, Storage.journaled, Script, Storage.scripted
-/
import Backoffice.Storage.Query

namespace Backoffice

/-- What a storage can be told or asked. -/
inductive StorageCall where
  | tell (step : QueryStep)
  | count
  | fetch
deriving Inhabited

namespace Storage

variable {σ ρ ε : Type}

/-- A storage that also lists the calls made so far, failed ones included. -/
def journaled (storage : Storage σ ρ ε) : Storage (σ × List StorageCall) ρ ε where
  tell := fun (query, calls) step => (storage.tell query step, calls ++ [.tell step])
  count := fun (query, calls) =>
    match storage.count query with
    | (answer, query) => (answer, query, calls ++ [.count])
  fetch := fun (query, calls) =>
    match storage.fetch query with
    | (answer, query) => (answer, query, calls ++ [.fetch])

end Storage

/-- Prepared answers: those to the next counts, and the one to a fetch. -/
structure Script (ρ ε : Type) where
  counts : List (Except ε Nat)
  rows : Except ε (List ρ)

/-- A storage that gives prepared answers, and counts nothing once they are used up. -/
def Storage.scripted (ρ ε : Type) : Storage (Script ρ ε) ρ ε where
  tell := fun script _ => script
  count := fun script =>
    match script.counts with
    | [] => (.ok 0, script)
    | answer :: rest => (answer, { script with counts := rest })
  fetch := fun script => (script.rows, script)

end Backoffice
