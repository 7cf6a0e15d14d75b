import Luks.Areas
import Luks.Buffers
import Luks.Deadline
import Luks.Ciphers
import Luks.Costs
import Luks.Speed
import Luks.Chopping
import Luks.EmptyDigest
import Luks.Stripeless
import Luks.SegmentSize
import Luks.ReadBack
import Luks.Conversion
import Luks.Scheme
import Luks.Splitting
import Luks.Seeking
import Luks.Detached
import Luks.Sectors
import Luks.Plain64
import Luks.Truncation
import Luks.Budgets
import Luks.Damage
import Luks.SharedFaults
import Luks.Layers
import Luks.Audit
import Luks.Fuzzing
import Luks.Diagnosis
import Luks.Streaming
import Luks.Rebuilding
