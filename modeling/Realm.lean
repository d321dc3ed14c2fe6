import Realm.Authored.Combats
import Realm.Authored.Items
import Realm.Authored.Rules
import Realm.Blob.Cursor
import Realm.Blob.Field
import Realm.Blob.Reader
import Realm.Bytes.LittleEndian
import Realm.Combat.Basic
import Realm.Combat.Cast
import Realm.Combat.Rules
import Realm.Combat.Settings
import Realm.Combat.Verdict
import Realm.Command
import Realm.Condition
import Realm.Creature.Basic
import Realm.Creature.Id
import Realm.Creature.Vitals
import Realm.Damage
import Realm.DataScan
import Realm.Disk
import Realm.Footprint.Area
import Realm.Footprint.Basic
import Realm.Footprint.Cache
import Realm.Footprint.Shape
import Realm.Footprint.Turn
import Realm.GameLog
import Realm.Item.Attribute
import Realm.Item.Basic
import Realm.Item.Catalogue
import Realm.Item.Codec
import Realm.JobQueue
import Realm.NodeFile.Arena
import Realm.NodeFile.BlockCache
import Realm.NodeFile.Error
import Realm.NodeFile.Escape
import Realm.NodeFile.Outline
import Realm.NodeFile.Session
import Realm.NodeFile.Source
import Realm.Position
import Realm.Random.ChaCha
import Realm.Random.Dice
import Realm.Text.Blank
import Realm.Text.Utf8
import Realm.TileMap.Basic
import Realm.TileMap.Tile
import Realm.TileMap.WorldFile
import Realm.World.Basic
import Realm.World.Change
import Realm.World.Fight
import Realm.World.Legality
import Realm.Yaml.Decoder
import Realm.Yaml.Document
import Realm.Yaml.Grammar
import Realm.Yaml.Input
import Realm.Yaml.Layout
import Realm.Yaml.Node
import Realm.Yaml.Number
import Realm.Yaml.Scalar
import Realm.Yaml.Token
import Realm.Main
import Realm.Proofs.NodeFile.CacheCoherence
import Realm.Proofs.NodeFile.Forest
import Realm.Proofs.NodeFile.Grammar
import Realm.Proofs.NodeFile.Parsing
import Realm.Proofs.NodeFile.Escaping
import Realm.Proofs.NodeFile.Reading
import Realm.Proofs.Disk
import Realm.Proofs.NodeFile.Writing
import Realm.Proofs.Text.Utf8
import Realm.Proofs.Text.Clipping
import Realm.Proofs.Blob
import Realm.Proofs.Item.Bag
import Realm.Proofs.Item.Edits
import Realm.Proofs.Item.Records
import Realm.Proofs.Item.Reload
import Realm.Proofs.Item.Settling
import Realm.Proofs.Item.Stopping
import Realm.Proofs.NodeFile.RoundTrip
import Realm.Proofs.NodeFile.Truncation
import Realm.Proofs.TileMap.Loading
import Realm.Proofs.TileMap.SaveLoad
import Realm.Proofs.TileMap.Accounts
import Realm.Proofs.TileMap.SavedBytes
import Realm.Proofs.TileMap.Durability
import Realm.Proofs.Footprint.Cells
import Realm.Proofs.Footprint.Grids
import Realm.Proofs.Footprint.Turns
import Realm.Proofs.Footprint.Diagonals
import Realm.Proofs.Footprint.BeamTokens
import Realm.Proofs.Footprint.Setup
import Realm.Proofs.Footprint.Beams
import Realm.Proofs.Footprint.Cover
import Realm.Proofs.World.Frame
import Realm.Proofs.World.Legality
import Realm.Proofs.World.Consistency
import Realm.Proofs.World.History
import Realm.Proofs.Combat.Frame
import Realm.Proofs.Combat.Changes
import Realm.Proofs.Combat.Charges
import Realm.Proofs.Condition.Advance
import Realm.Proofs.Condition.Refresh
import Realm.Proofs.Combat.Resolution
import Realm.Proofs.World.Run
import Realm.Proofs.World.Ledger
import Realm.Proofs.World.Death
import Realm.Proofs.Combat.Refusal
import Realm.Proofs.Combat.Reports
import Realm.Proofs.Combat.Shelter
import Realm.Proofs.Combat.Agreement
import Realm.Proofs.Combat.Pvp
import Realm.Proofs.World.FightTimers
import Realm.Proofs.Blob.RoundTrip
import Realm.Proofs.Footprint.Cache
import Realm.Proofs.JobQueue
import Realm.Proofs.World.Aggressors
import Realm.Proofs.NodeFile.Calls
import Realm.Proofs.NodeFile.Soundness
import Realm.Proofs.NodeFile.Refusals
import Realm.Proofs.World.SavedTiles
import Realm.Proofs.World.Targets
import Realm.Proofs.World.Skulls
import Realm.Proofs.Combat.Scaling
import Realm.Proofs.Condition.Kinds
import Realm.Proofs.World.Conditions
import Realm.Proofs.Combat.Resistance
import Realm.Proofs.Combat.Immunity
import Realm.Proofs.TileMap.SightLine
import Realm.Proofs.Item.UniqueId
import Realm.Proofs.Item.Decay
import Realm.Proofs.NodeFile.Preorder
import Realm.Proofs.NodeFile.BlockSize
import Realm.Proofs.NodeFile.Listing
import Realm.Proofs.Blob.AllOrNothing
import Realm.Proofs.NodeFile.EscapedForm
import Realm.Proofs.Item.Equality
import Realm.Proofs.NodeFile.CacheInvariant
import Realm.Proofs.NodeFile.Termination
