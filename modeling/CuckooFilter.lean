import CuckooFilter.Hash.Murmur
import CuckooFilter.Hash.Fnv
import CuckooFilter.Fingerprint
import CuckooFilter.Random.Xoshiro
import CuckooFilter.Key
import CuckooFilter.Text.ByteSize
import CuckooFilter.Text.Structured
import CuckooFilter.Text.Quoted
import CuckooFilter.Table.Relocation
import CuckooFilter.Table.Image
import CuckooFilter.Snapshot.Decoding
import CuckooFilter.PlainFilter
import CuckooFilter.ExpiringFilter
import CuckooFilter.CommandLine.Directory
import CuckooFilter.Main
import CuckooFilter.Proofs.Occupancy
import CuckooFilter.Proofs.PlainFilter.Refinement
import CuckooFilter.Proofs.ExpiringFilter.Refinement
import CuckooFilter.Proofs.Resumption
import CuckooFilter.Proofs.ExpiringFilter.Sightings
import CuckooFilter.Proofs.ExpiringFilter.EvictionOrder
import CuckooFilter.Proofs.ExpiringFilter.Load
import CuckooFilter.Proofs.ExpiringFilter.Delay
import CuckooFilter.Proofs.Checked
import CuckooFilter.Proofs.Restoration
import CuckooFilter.Proofs.Snapshot.Truncation
import CuckooFilter.Proofs.Snapshot.Normalization
import CuckooFilter.Proofs.Table.Conservation
import CuckooFilter.Proofs.Table.Geometry
import CuckooFilter.Proofs.Table.Uniqueness
import CuckooFilter.Proofs.Binary64
import CuckooFilter.Proofs.Refusal
import CuckooFilter.Proofs.ExpiringFilter.ExactAging
import CuckooFilter.Proofs.ExpiringFilter.Newest
import CuckooFilter.Proofs.Key
