import Yaskkserv2.EncodingSimple.Tables
import Yaskkserv2.Framework.Transliterate
import Yaskkserv2.EncodingSimple.Euc
import Yaskkserv2.Dictionary
import Yaskkserv2.Framework.Delimited
import Yaskkserv2.MakeDictionary.DictionaryCreator
import Yaskkserv2.Properties.BlockLayout
import Yaskkserv2.Properties.BlockUnits
import Yaskkserv2.Properties.IndexData
import Yaskkserv2.Properties.Keys
import Yaskkserv2.Candidates
import Yaskkserv2.EncodingSimple.Utility
import Yaskkserv2.Server.DictionaryReader
import Yaskkserv2.Properties.LoadedIndex
import Yaskkserv2.Properties.DictionaryFile
import Yaskkserv2.Properties.UnitSearch
import Yaskkserv2.Properties.LoadedUnits
import Yaskkserv2.Properties.ExactLookup
import Yaskkserv2.Properties.Completion
import Yaskkserv2.Server.HandleClient
import Yaskkserv2.Server.RunLoop
import Yaskkserv2.Server.EventLoop
import Yaskkserv2.Properties.ConnectionTable
import Yaskkserv2.Properties.Reading
import Yaskkserv2.Properties.Framing
import Yaskkserv2.Properties.AtRest
import Yaskkserv2.Properties.Isolation
import Yaskkserv2.EncodingSimple.EncodingTableGet
import Yaskkserv2.Framework.Assignment
import Yaskkserv2.Properties.ShippedTable
import Yaskkserv2.Properties.TableRows
import Yaskkserv2.Properties.TableSetup
import Yaskkserv2.Properties.ListedCodes
import Yaskkserv2.Properties.DecodeReference
import Yaskkserv2.Properties.EncodeReference
import Yaskkserv2.Properties.RoundTrip
import Yaskkserv2.Framework.KeyedMerge
import Yaskkserv2.Properties.Merging
import Yaskkserv2.Properties.CacheEntries
import Yaskkserv2.Properties.ReadCache
import Yaskkserv2.Properties.CacheWrites
import Yaskkserv2.Properties.CacheAge
import Yaskkserv2.Properties.CacheInterleaving
import Yaskkserv2.MakeDictionary.JisyoReader
import Yaskkserv2.Properties.JisyoLines
import Yaskkserv2.Properties.JisyoFaults
import Yaskkserv2.Framework.Correspondence
import Yaskkserv2.Properties.CodeTexts
import Yaskkserv2.Properties.TranscodedCandidates
import Yaskkserv2.Properties.Transcoding
import Yaskkserv2.Properties.TranscodedJisyo
import Yaskkserv2.Properties.OkuriAri
import Yaskkserv2.Properties.Quoting
import Yaskkserv2.Properties.TotalTranscoding
import Yaskkserv2.Framework.Layering
import Yaskkserv2.Framework.Product
import Yaskkserv2.MakeDictionary.JisyoCreator
import Yaskkserv2.Properties.DetectedEncoding
import Yaskkserv2.Properties.SettingLayers
import Yaskkserv2.Properties.SplitConversion
import Yaskkserv2.Properties.Answers
import Yaskkserv2.Properties.Delimiters
import Yaskkserv2.Properties.GoogleTiming
import Yaskkserv2.Properties.Progress
import Yaskkserv2.Properties.Service
import Yaskkserv2.Properties.AllUnits
import Yaskkserv2.Properties.Regeneration
import Yaskkserv2.Properties.ReplyLines
import Yaskkserv2.Properties.ServedJisyo
import Yaskkserv2.Framework.StreamCodec
import Yaskkserv2.Properties.CacheRestart
