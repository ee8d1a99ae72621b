import RadioCall.Coalition
import RadioCall.Cursor
import RadioCall.Log.Remark
import RadioCall.Main
import RadioCall.Proofs.Callsign.Grouping
import RadioCall.Proofs.CommandLine.Status
import RadioCall.Proofs.Cursor.Run
import RadioCall.Proofs.Faults
import RadioCall.Proofs.Finality
import RadioCall.Proofs.Judgement
import RadioCall.Proofs.Number.Maximal
import RadioCall.Proofs.Number.WellFormed
import RadioCall.Proofs.Pronunciation
import RadioCall.Proofs.Reception
import RadioCall.Proofs.Settings.Callsign
import RadioCall.Proofs.Settings.Reached
import RadioCall.Proofs.Settings.Shared
import RadioCall.Proofs.Utterance.Thousands
import RadioCall.Proofs.Vocabulary.Invariants
import RadioCall.Proofs.Vocabulary.Meaning
import RadioCall.Proofs.Vocabulary.Recency
import RadioCall.Proofs.Vocabulary.Selection
import RadioCall.Proofs.Vocabulary.Spoken
import RadioCall.Proofs.Vocabulary.Unreported
import RadioCall.Settings.Session
