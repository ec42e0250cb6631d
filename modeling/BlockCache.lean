import BlockCache.Basic
import BlockCache.Decimal
import BlockCache.PathScheme
import BlockCache.Fs
import BlockCache.Download
import BlockCache.Latest
import BlockCache.Completeness
import BlockCache.Boundary
import BlockCache.Json
import BlockCache.Hex
import BlockCache.Transcode
import BlockCache.TranscodeSpec
import BlockCache.Batch
import BlockCache.FetchLoop
import BlockCache.Writes
import BlockCache.Runs
import BlockCache.Repair
import BlockCache.Honest
import BlockCache.Accounting
import BlockCache.Agreement
